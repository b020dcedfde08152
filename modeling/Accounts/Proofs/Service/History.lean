import Accounts.Proofs.Account.Prepared
import Accounts.Proofs.Service.Effects
import Accounts.Proofs.World.Run

/-!
# The history of a run

What the requests of a run and their answers tell about the accounts: who was registered with which
password, under which email an account goes by now, and who was deleted.  The table always agrees
with it, because no change of an account touches its hash:

    members (records setup moves w)   and   the table after the moves
        have the same identifiers, emails and hashes
-/

namespace Accounts

open Accounts.Action
open Accounts.Request (Within)

variable {α : Type} {setup : Setup} {w : World} {x : Record}

/-! ## Rows that were inserted -/

/-- The row that an exchange has inserted. -/
def Exchange.inserted? : Exchange → Option Store.Row
  | ⟨.sql (.insert _), .ok row⟩ => some row
  | _ => none

/-- The rows that a move has inserted, by the answers to its statements. -/
def Record.inserted (x : Record) : List Store.Row := x.exchanges.filterMap Exchange.inserted?

/-- A request that rewrites no row adds the row that its answer tells of. -/
theorem World.answer_appends {C : Cache.Command → Prop} {r : Request}
    (hr : r.Within (fun s => ∀ id, ¬ Store.Rewrites id s) C) (w : World) :
    (w.answer r).2.table = w.table ++ (Exchange.inserted? ⟨r, (w.answer r).1⟩).toList := by
  cases r with
  | sql s =>
    cases s with
    | insert draft =>
      show (w.runStatement (.insert draft)).2.table =
        w.table ++ (Exchange.inserted? ⟨.sql (.insert draft), (w.runStatement (.insert draft)).1⟩).toList
      cases hfault : w.faults.sql.head?.join with
      | some fault =>
        rw [runStatement_of_fault hfault]
        exact (List.append_nil _).symm
      | none =>
        rw [runStatement_of_no_fault hfault]
        rcases Store.insert_cases w.now (w.newId (.insert draft)) draft w.table with
          ⟨fault, h⟩ | ⟨email, time, -, -, -, -, -, h⟩
        · rw [show (Store.Statement.insert draft).run w.now _ w.table = _ from h]
          exact (List.append_nil _).symm
        · rw [show (Store.Statement.insert draft).run w.now _ w.table = _ from h]
          rfl
    | revise id d => exact absurd rfl (hr id)
    | remove id => exact absurd rfl (hr id)
    | findById | findByEmail | probe =>
      rw [answer_reads (C := fun _ => False) (by exact trivial)]
      exact (List.append_nil _).symm
  | cache c =>
    rw [answer_table w fun s h => by cases h]
    exact (List.append_nil _).symm
  | clock | salt | log | connection => exact (List.append_nil _).symm

/-- A program that rewrites no row adds the rows that its answers tell of. -/
theorem Program.Asks.run_appends {C : Cache.Command → Prop} {p : Program α}
    (hp : p.Asks (Within (fun s => ∀ id, ¬ Store.Rewrites id s) C)) (w : World) :
    (p.run w).2.table = w.table ++ (p.trace w).filterMap Exchange.inserted? := by
  induction hp generalizing w with
  | done a => exact (List.append_nil _).symm
  | @ask r next here later ih =>
    have hanswer := World.answer_appends here w
    have hrest := ih (w.answer r).1 (w.answer r).2
    show ((next (w.answer r).1).run (w.answer r).2).2.table =
      w.table ++ (⟨r, (w.answer r).1⟩ :: (next (w.answer r).1).trace (w.answer r).2).filterMap _
    rw [hrest, hanswer, List.append_assoc, List.filterMap_cons]
    cases Exchange.inserted? ⟨r, (w.answer r).1⟩ <;> rfl

theorem Action.Asks.run_appends {C : Cache.Command → Prop} {a : Action α}
    (ha : a.Asks (Within (fun s => ∀ id, ¬ Store.Rewrites id s) C)) (w : World) :
    (a.run w).2.table = w.table ++ (a.trace w).filterMap Exchange.inserted? :=
  Program.Asks.run_appends ha w

theorem Action.run_distinct (a : Action α) (h : Store.Table.Distinct w.table) :
    Store.Table.Distinct (a.run w).2.table :=
  Program.run_distinct (ExceptT.run a) h

/-! ## Members -/

/-- What the history of a run tells of an account: the email that it goes by now, the password that
it was registered with, and the salt that this password was hashed with. -/
structure Member where
  id : Uuid
  email : String
  password : String
  salt : String

namespace Member

/-- The hash that was made at the registration. -/
def hash? (m : Member) : Option String := Password.hashWith? m.salt m.password

/-- Hashing a password with the salt of the hash that was made at the registration gives that hash
again. -/
def Accepts (m : Member) (p : String) : Prop :=
  ∃ hash, m.hash? = some hash ∧ Password.hashWith? hash p = some hash

/-- The member after a change: an email that is not blank takes the place of the old one. -/
def revised (m : Member) (d : Details) : Member :=
  { m with email := orElse (normalEmail d.email).chars m.email }

@[simp] theorem revised_email (m : Member) (d : Details) :
    (m.revised d).email = orElse (normalEmail d.email).chars m.email := by
  unfold revised
  dsimp only

@[simp] theorem revised_password (m : Member) (d : Details) :
    (m.revised d).password = m.password := by
  unfold revised
  dsimp only

/-- The member that a registration makes with a row. -/
def ofRegistration (r : Registration) (salt : String) (row : Store.Row) : Member :=
  ⟨row.profile.id, (normalEmail r.details.email).chars, (r.password.getD "").chars, salt⟩

end Member

/-- The members after a move: a registration whose row was inserted adds one, a change that was
answered gives one its email, and a deletion that was answered takes one away. -/
def Record.members (x : Record) (ms : List Member) : List Member :=
  match x.move.step, x.answer with
  | .register r, _ => ms ++ x.inserted.map (Member.ofRegistration r x.before.salt)
  | .update id d, .ok _ => ms.map fun m => if m.id = id then m.revised d else m
  | .delete id, .ok _ => ms.filter fun m => m.id ≠ id
  | _, _ => ms

/-- The members after the moves of a run that starts with no account. -/
def members (xs : List Record) : List Member := xs.foldl (fun ms x => x.members ms) []

/-- A step of the service, the passing of time, or a new salt. -/
def Step.ByService : Step → Prop
  | .register _ | .login _ | .update _ _ | .delete _ | .find _ | .advance _ | .setSalt _ => True
  | _ => False

/-! ## Agreement with the table -/

/-- What the history and the table both know of an account. -/
abbrev Entry := Uuid × String × Option String

/-- What the history knows of a member. -/
def Member.entry (m : Member) : Entry := (m.id, m.email, m.hash?)

/-- What the table knows of a row. -/
def Store.Row.entry (r : Store.Row) : Entry := (r.profile.id, r.profile.email, some r.hash)

theorem entry_revised {d prepared : Details} (h : d.prepare = .ok prepared) (row : Store.Row)
    (time : Calendar.DateTime) : (row.revised prepared time).entry =
      (row.profile.id, orElse (normalEmail d.email).chars row.profile.email, some row.hash) := by
  rw [← (Details.prepare_eq_ok h row.profile.email).1]
  rfl

/-- The history agrees with a table, and has valid emails and passwords only. -/
structure Agree (ms : List Member) (t : Store.Table) : Prop where
  entries : ms.map Member.entry = t.map Store.Row.entry
  distinct : Store.Table.Distinct t
  emails : ∀ m ∈ ms, checkEmail true (some m.email) = none
  passwords : ∀ m ∈ ms, checkPassword (some m.password) = .ok none

namespace Agree

variable {ms : List Member} {t : Store.Table}

theorem nil : Agree [] [] :=
  ⟨rfl, .nil, fun _ h => (nomatch h), fun _ h => (nomatch h)⟩

/-- Every row is the row of a member. -/
theorem exists_member (h : Agree ms t) {row : Store.Row} (hrow : row ∈ t) :
    ∃ m ∈ ms, m.entry = row.entry := by
  have hmem : row.entry ∈ ms.map Member.entry := h.entries ▸ List.mem_map_of_mem hrow
  exact List.mem_map.1 hmem

/-- Every member has a row. -/
theorem exists_row (h : Agree ms t) {m : Member} (hm : m ∈ ms) :
    ∃ row ∈ t, row.entry = m.entry := by
  have hmem : m.entry ∈ t.map Store.Row.entry := h.entries ▸ List.mem_map_of_mem hm
  exact List.mem_map.1 hmem

theorem append (h : Agree ms t) {m : Member} {row : Store.Row} (hentry : m.entry = row.entry)
    (hdistinct : Store.Table.Distinct (t ++ [row])) (hemail : checkEmail true (some m.email) = none)
    (hpassword : checkPassword (some m.password) = .ok none) : Agree (ms ++ [m]) (t ++ [row]) where
  entries := by
    rw [List.map_append, List.map_append, h.entries, List.map_singleton, List.map_singleton, hentry]
  distinct := hdistinct
  emails m' hm' := by
    rcases List.mem_append.1 hm' with hm' | hm'
    · exact h.emails m' hm'
    · rw [List.mem_singleton.1 hm']
      exact hemail
  passwords m' hm' := by
    rcases List.mem_append.1 hm' with hm' | hm'
    · exact h.passwords m' hm'
    · rw [List.mem_singleton.1 hm']
      exact hpassword

theorem remove (h : Agree ms t) (id : Uuid) :
    Agree (ms.filter fun m => m.id ≠ id) (t.remove id) where
  entries := by
    have hms : (ms.filter fun m => m.id ≠ id).map Member.entry =
        (ms.map Member.entry).filter fun e => e.1 ≠ id := by
      rw [List.filter_map]
      rfl
    have ht : (t.remove id).map Store.Row.entry = (t.map Store.Row.entry).filter fun e => e.1 ≠ id := by
      rw [List.filter_map]
      rfl
    rw [hms, ht, h.entries]
  distinct := h.distinct.remove id
  emails m hm := h.emails m (List.mem_filter.1 hm).1
  passwords m hm := h.passwords m (List.mem_filter.1 hm).1

theorem replace (h : Agree ms t) {id : Uuid} {row : Store.Row} {d prepared : Details}
    {time : Calendar.DateTime} (hprepared : d.prepare = .ok prepared)
    (hrow : t.find? id = some row)
    (hfree : t.takenByOther id (row.revised prepared time).profile.email = false) :
    Agree (ms.map fun m => if m.id = id then m.revised d else m)
      (t.replace id (row.revised prepared time)) where
  entries := by
    have hms : (ms.map fun m => if m.id = id then m.revised d else m).map Member.entry =
        (ms.map Member.entry).map fun e =>
          if e.1 = id then (e.1, orElse (normalEmail d.email).chars e.2.1, e.2.2) else e := by
      rw [List.map_map, List.map_map]
      refine List.map_congr_left fun m _ => ?_
      by_cases hid : m.id = id <;> simp [hid, Member.entry, Member.revised, Member.hash?]
    have ht : (t.replace id (row.revised prepared time)).map Store.Row.entry =
        (t.map Store.Row.entry).map fun e =>
          if e.1 = id then (e.1, orElse (normalEmail d.email).chars e.2.1, e.2.2) else e := by
      rw [Store.Table.replace, List.map_map, List.map_map]
      refine List.map_congr_left fun r hr => ?_
      by_cases hid : r.profile.id = id
      · have heq : r = row := by
          have hfind := h.distinct.find? hr
          rw [hid, hrow] at hfind
          exact (Option.some.inj hfind).symm
        rw [Function.comp_apply, Function.comp_apply, if_pos hid,
          if_pos (show r.entry.1 = id from hid), heq, entry_revised hprepared]
        rfl
      · rw [Function.comp_apply, Function.comp_apply, if_neg hid,
          if_neg (show ¬ r.entry.1 = id from hid)]
    rw [hms, ht, h.entries]
  distinct := h.distinct.replace
    ((row.revised_id prepared time).trans (Store.Table.id_of_find? hrow)) hfree
  emails m hm := by
    obtain ⟨m', hm', rfl⟩ := List.mem_map.1 hm
    split
    · rw [Member.revised_email]
      exact (Details.prepare_eq_ok hprepared m'.email).2 (h.emails m' hm')
    · exact h.emails m' hm'
  passwords m hm := by
    obtain ⟨m', hm', rfl⟩ := List.mem_map.1 hm
    split
    · rw [Member.revised_password]
      exact h.passwords m' hm'
    · exact h.passwords m' hm'

end Agree

/-! ## Moves and runs -/

theorem Step.table_login (setup : Setup) (c : Credentials) (w : World) :
    ((Step.login c).run setup w).2.table = w.table := by
  have hasks : (Identity.login setup.identity c).Asks (Within Store.Reads fun _ => False) :=
    (Identity.asks_login setup.identity c).mono
      (Within.mono (fun _ h => by rw [h]; trivial) fun _ h => h)
  rw [Step.run_login]
  dsimp only
  exact hasks.table_of_reads w

theorem Step.table_find (setup : Setup) (id : Uuid) (w : World) :
    ((Step.find id).run setup w).2.table = w.table := by
  have hasks : (Identity.find setup.identity id).Asks (Within Store.Reads
      (Identity.FindCommand id setup.identity.cacheSeconds)) :=
    (Identity.asks_find setup.identity id).mono
      (Within.mono (fun _ h => by rw [h]; trivial) fun _ h => h)
  rw [Step.run_find]
  dsimp only
  exact hasks.table_of_reads w

variable {ms : List Member}

/-- A registration adds the member whose row it inserts. -/
theorem Agree.register (h : Agree ms w.table) (config : Identity.Config) (r : Registration) :
    Agree (ms ++ (((Identity.register config r).trace w).filterMap Exchange.inserted?).map
      (Member.ofRegistration r w.salt)) ((Identity.register config r).run w).2.table := by
  have hasks : (Identity.register config r).Asks
      (Within (fun s => ∀ id, ¬ Store.Rewrites id s) fun _ => False) := by
    exact (Identity.asks_register config r).mono
      (Within.mono (fun s hs => hs.not_rewrites) fun _ h => h)
  have happend : ((Identity.register config r).run w).2.table =
      w.table ++ ((Identity.register config r).trace w).filterMap Exchange.inserted? :=
    hasks.run_appends w
  have hdistinct : Store.Table.Distinct ((Identity.register config r).run w).2.table :=
    Action.run_distinct _ h.distinct
  rcases Identity.register_table config r w with hsame |
    ⟨prepared, hash, id, email, time, hprepared, hemail, hhash, hadded⟩
  · rw [hsame, List.self_eq_append_right] at happend
    rw [happend, hsame, List.map_nil, List.append_nil]
    exact h
  · rw [hadded] at happend hdistinct ⊢
    rw [← List.append_cancel_left happend, List.map_singleton]
    obtain ⟨hpassword, hcheck, hvalid⟩ := Registration.prepare_eq_ok hprepared
    have hwhole := LooseText.eq_coe_of_isWhole (hashable_of_checkPassword hvalid).1
    rw [Registration.prepared_email hprepared] at hemail
    obtain rfl := Option.some.inj hemail
    rw [hpassword, hwhole, Password.hashLoose?_coe] at hhash
    refine h.append ?_ hdistinct ?_ ?_
    · unfold Member.entry Member.hash? Member.ofRegistration
      dsimp only
      rw [hhash]
      rfl
    · unfold Member.ofRegistration
      dsimp only
      rw [← Registration.normalEmail_eq hprepared, hcheck]
    · unfold Member.ofRegistration
      dsimp only
      rw [← hwhole]
      exact hvalid

/-- An answered change gives a member its email, and one that fails changes nothing. -/
theorem Agree.update (h : Agree ms w.table) (id : Uuid) (d : Details) :
    Agree (match ((Identity.update id d).run w).1 with
      | .ok _ => ms.map fun m => if m.id = id then m.revised d else m
      | .error _ => ms) ((Identity.update id d).run w).2.table := by
  rcases Identity.update_cases w id d with ⟨⟨e, herror⟩, hsame⟩ |
    ⟨prepared, row, time, hprepared, hrow, hfree, hok, hreplaced⟩
  · rw [herror, hsame]
    exact h
  · rw [hok, hreplaced]
    exact h.replace hprepared hrow hfree

/-- An answered deletion takes a member away, and one that fails changes nothing. -/
theorem Agree.delete (h : Agree ms w.table) (id : Uuid) :
    Agree (match ((Identity.delete id).run w).1 with
      | .ok _ => ms.filter fun m => m.id ≠ id
      | .error _ => ms) ((Identity.delete id).run w).2.table := by
  rcases Identity.delete_cases w id with ⟨⟨e, herror⟩, hsame⟩ | ⟨row, hrow, hok, hremoved⟩
  · rw [herror, hsame]
    exact h
  · rw [hok, hremoved]
    exact h.remove id

/-- Every move of the service keeps the history in agreement with the table. -/
theorem Agree.record {m : Move} (h : Agree ms w.table) (hm : m.step.ByService) :
    Agree ((m.record setup w).members ms) (m.record setup w).after.table := by
  obtain ⟨step, faults⟩ := m
  have hfacing : Agree ms (w.facing faults).table := h
  unfold Record.members Record.inserted
  rw [Move.record_move, Move.record_answer, Move.record_exchanges, Move.record_before,
    Move.record_table]
  cases step with
  | register r =>
    rw [Step.run_register, Step.trace_register, show w.salt = (w.facing faults).salt from rfl]
    dsimp only
    exact hfacing.register setup.identity r
  | login c =>
    rw [Step.table_login]
    exact h
  | update id d =>
    have hupdate := hfacing.update id d
    rw [Step.run_update]
    dsimp only
    cases hanswer : ((Identity.update id d).run (w.facing faults)).1 with
    | error e =>
      rw [hanswer] at hupdate
      exact hupdate
    | ok account =>
      rw [hanswer] at hupdate
      exact hupdate
  | delete id =>
    have hdelete := hfacing.delete id
    rw [Step.run_delete]
    dsimp only
    cases hanswer : ((Identity.delete id).run (w.facing faults)).1 with
    | error e =>
      rw [hanswer] at hdelete
      exact hdelete
    | ok _ =>
      rw [hanswer] at hdelete
      exact hdelete
  | find id =>
    rw [Step.table_find]
    exact h
  | advance span => exact h
  | setSalt salt => exact h
  | _ => exact hm.elim

/-- The history of a run agrees with the table after it. -/
theorem Agree.records {moves : List Move} (h : Agree ms w.table)
    (hmoves : ∀ m ∈ moves, m.step.ByService) :
    Agree ((records setup moves w).foldl (fun ms x => x.members ms) ms)
      (finish setup moves w).table := by
  induction moves generalizing w ms with
  | nil => exact h
  | cons m moves ih =>
    exact ih (h.record (hmoves m List.mem_cons_self))
      fun m' hm' => hmoves m' (List.mem_cons_of_mem m hm')

/-- The history of a run from the start agrees with the table after it. -/
theorem members_agree (setup : Setup) (now : Calendar.Instant) (salt : String) (faults : Faults)
    {moves : List Move} (hmoves : ∀ m ∈ moves, m.step.ByService) :
    Agree (members (records setup moves (World.started setup now salt faults)))
      (finish setup moves (World.started setup now salt faults)).table := by
  refine Agree.records ?_ hmoves
  rw [(World.started_empty setup now salt faults).table]
  exact .nil

end Accounts
