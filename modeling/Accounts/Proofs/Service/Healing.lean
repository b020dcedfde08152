import Accounts.Proofs.Cache.Lifetime
import Accounts.Proofs.Cache.Origin
import Accounts.Proofs.Service.Login
import Accounts.Proofs.Service.Transparency

/-!
# Copies that cannot be read

Whatever text is put under the key of an account past the service, a look-up fails only for an account
that is not there.  A text that is no account counts as nothing: the table answers, and over
a connection that takes the lifetime of copies the text gives way to the copy of the row:

    decode text = none  ->  find id = the row of id,  and then  the copy of the row is under the key
-/

namespace Accounts

open Accounts.Action
open Accounts.Request (Within)
open Cache (key)
open Calendar Number

variable {α : Type} {setup : Setup} {id : Uuid} {text : String} {w : World} {row : Store.Row}
  {account : Account}

/-! ## Storing a copy -/

/-- A number of seconds that a copy can be stored for: they are positive, and they and the
milliseconds at their end can be counted. -/
def Cache.accepts (now : Instant) (seconds : Int) : Bool :=
  fitsWord 64 seconds && 0 < seconds && (deadline? now seconds).isSome

theorem Cache.setFor_of_accepts {now : Instant} {seconds : Int} (h : accepts now seconds = true)
    (ks : Keyspace) (name value : String) : (Command.setFor name seconds value).run now ks =
      (.ok (), ks.put name ⟨value, now + seconds * second⟩) := by
  unfold accepts at h
  rw [Bool.and_eq_true, Bool.and_eq_true, decide_eq_true_eq] at h
  obtain ⟨⟨hword, hpositive⟩, hdeadline⟩ := h
  obtain ⟨expires, hexpires⟩ := Option.isSome_iff_exists.1 hdeadline
  show ks.setFor now name seconds value = _
  unfold Keyspace.setFor
  rw [hword, if_neg (by decide), if_neg (Int.not_le.2 hpositive), hexpires,
    deadline?_eq_some hexpires]
  rfl

theorem Cache.setFor_of_not_accepts {now : Instant} {seconds : Int}
    (h : accepts now seconds = false) (ks : Keyspace) (name value : String) :
    ((Command.setFor name seconds value).run now ks).2 = ks := by
  rcases hresult : ((Command.setFor name seconds value).run now ks).1 with fault | ⟨⟩
  · exact Command.run_error hresult
  · change (ks.setFor now name seconds value).1 = _ at hresult
    unfold accepts at h
    unfold Keyspace.setFor at hresult
    cases hword : fitsWord 64 seconds with
    | false =>
      rw [hword, if_pos (by decide)] at hresult
      cases hresult
    | true =>
      rw [hword, if_neg (by decide)] at hresult
      split at hresult
      · cases hresult
      · rename_i hpositive
        rw [hword, decide_eq_true (Int.not_le.1 hpositive), Bool.and_true, Bool.true_and] at h
        rw [Option.isSome_eq_false_iff, Option.isNone_iff_eq_none] at h
        rw [h] at hresult
        cases hresult

theorem World.Faults.next_empty (c : Cache.Command) : next {} c = (none, {}) := by
  cases c <;> rfl

/-- Over a connection and without faults the keys are what the command makes of them. -/
theorem World.runCommand_keys_of_faultless (hfaults : w.faults = {}) (hattached : w.attached = true)
    (c : Cache.Command) : (w.runCommand c).2.keys = (c.run w.now w.keys).2 := by
  unfold runCommand
  rw [if_neg (by simp [hattached]), hfaults, Faults.next_empty]
  rcases c.run w.now w.keys with ⟨fault | result, keys⟩ <;> rfl

/-- What is reported of a command changes no keys. -/
theorem Cache.carried_keys (name : String) (c : Command) (e : Event) (w : World) :
    ((carried name c e).run w).2.keys = (w.runCommand c).2.keys := by
  have hsent : (request (.cache c)).run w = (.ok (w.runCommand c).1, (w.runCommand c).2) := rfl
  unfold carried send
  rw [run_bind, run_bind_ok _ hsent]
  rcases (w.runCommand c).1 with _ | fault | result <;> rfl

/-- Without faults, storing a copy puts it under its key when there is a connection that takes the
lifetime, and changes no key otherwise. -/
theorem Cache.store_keys_eq (hfaults : w.faults = {}) (account : Account) (seconds : Int) :
    ((store account seconds).run w).2.keys =
      if w.attached = true ∧ accepts w.now seconds = true then
        w.keys.put (key account.id) ⟨encode account, w.now + seconds * second⟩
      else w.keys := by
  rw [store_eq]
  cases hattached : w.attached with
  | false =>
    rw [carried_of_detached hattached]
    rfl
  | true =>
    rw [carried_keys, World.runCommand_keys_of_faultless hfaults hattached]
    cases haccepts : accepts w.now seconds with
    | false => exact setFor_of_not_accepts haccepts _ _ _
    | true => rw [setFor_of_accepts haccepts, if_pos ⟨rfl, rfl⟩]

/-! ## Reading without faults -/

theorem World.answer_faultless (h : w.faults = {}) (r : Request) : (w.answer r).2.faults = {} := by
  cases r with
  | sql s =>
    show (w.runStatement s).2.faults = {}
    rw [runStatement_of_no_fault (by rw [h]; rfl)]
    show (w.tried s).faults = {}
    unfold tried
    rw [h]
    rfl
  | cache c =>
    show (w.runCommand c).2.faults = {}
    have hnext : (Faults.next w.faults c).2 = {} := by rw [h, Faults.next_empty]
    cases hattached : w.attached with
    | false => rw [runCommand_of_detached hattached, h]
    | true =>
      rcases runCommand_cases (c := c) hattached with ⟨_, hc⟩ | ⟨_, -, hc⟩ | ⟨_, -, hc⟩
      · rw [hc, ← hnext]
      · rw [hc, ← hnext]
      · rw [hc, ← hnext]
  | clock | salt | log | connection => exact h

/-- Without faults, what reads rows and keys leaves the world as it was, but for the log. -/
theorem Action.Asks.run_same {a : Action α}
    (ha : a.Asks (Within Store.Reads fun c => ∃ name, c = .get name)) (h : w.faults = {}) :
    w.Same (a.run w).2 ∧ (a.run w).2.faults = {} :=
  Program.Asks.run_keeps (I := fun w' => w.Same w' ∧ w'.faults = {}) ha
    (fun r w' hr hw' => by
      obtain ⟨hsame, hfaults⟩ := hw'
      refine ⟨⟨(w'.answer_now r).trans hsame.now, (World.answer_reads hr).trans hsame.table,
        (World.answer_reads_keys hr).trans hsame.keys,
        (World.answer_attached_of_within hr w').trans hsame.attached⟩, ?_⟩
      exact World.answer_faultless hfaults r)
    ⟨⟨rfl, rfl, rfl, rfl⟩, h⟩

/-! ## Looking up -/

namespace Identity

/-- A copy that is read is the answer, and no statement is run for it. -/
theorem find_of_read (h : (w.read? (key id)).bind Cache.decode = some account) (config : Config) :
    ((find config id).run w).1 = .ok account ∧
      ∀ x ∈ (find config id).trace w, ∀ s, x.request ≠ .sql s := by
  obtain ⟨w₁, hrun⟩ := Cache.find_read id w
  rw [h] at hrun
  rw [find_eq, run_bind_ok _ hrun, trace_bind, hrun]
  refine ⟨rfl, fun x hx s hrequest => ?_⟩
  change x ∈ (Cache.find id).trace w ++ [] at hx
  rw [List.append_nil] at hx
  have hasks : Within (fun _ => False) (· = .get (key id)) x.request :=
    Asks.of_mem_trace (Cache.asks_find id) hx
  rw [hrequest] at hasks
  exact hasks

/-- What comes of a look-up without faults when the cache has nothing. -/
structure Filled (config : Config) (id : Uuid) (w : World) (x : Except Error Account × World) :
    Prop where
  /-- The table answers. -/
  answer : x.1 = lookUp w.table id
  missing : w.table.find? id = none → x.2.keys = w.keys
  /-- The copy of the row is stored, if there is a connection that takes its lifetime. -/
  stored : ∀ row, w.table.find? id = some row → x.2.keys =
    if w.attached = true ∧ Cache.accepts w.now config.cacheSeconds = true then
      w.keys.put (key id) (Cache.copyOf w.now config.cacheSeconds row)
    else w.keys

theorem filled_populated (h : w.faults = {}) (config : Config) (id : Uuid) :
    Filled config id w ((populated config id).run w) := by
  have hasks : (looked id).Asks (Within Store.Reads fun c => ∃ name, c = .get name) :=
    (asks_looked id).mono (Within.mono (fun _ h => by rw [h]; trivial) fun _ h => h)
  have hlooked := looked_run (World.sound_of_faultless h) id
  obtain ⟨hsame, hfaults⟩ := hasks.run_same h
  unfold populated
  rcases hrun : (looked id).run w with ⟨result, w₁⟩
  rw [hrun] at hlooked hsame hfaults
  dsimp only at hlooked hsame hfaults
  cases hrow : w.table.find? id with
  | none =>
    have hanswer : lookUp w.table id = .error
        (.failure { cause := .unknownAccount, operation := some "identity.get_by_id" }) := by
      unfold lookUp
      rw [hrow]
    rw [run_bind_error _ (hrun.trans (by rw [hlooked, hanswer]))]
    exact ⟨hanswer.symm, fun _ => hsame.keys, fun _ hsome => nomatch hrow.symm.trans hsome⟩
  | some row =>
    have hanswer : lookUp w.table id = .ok row.account := by
      unfold lookUp
      rw [hrow]
    have hid : row.account.sanitized.id = id := Store.Table.id_of_find? hrow
    have hkeys := Cache.store_keys_eq hfaults row.account.sanitized config.cacheSeconds
    obtain ⟨stored, w₂, hstored⟩ := Cache.returns_store row.account.sanitized config.cacheSeconds w₁
    rw [hstored, hsame.attached, hsame.now, hsame.keys, hid] at hkeys
    dsimp only at hkeys
    rw [run_bind_ok _ (hrun.trans (by rw [hlooked, hanswer]))]
    dsimp only
    rw [run_bind_ok _ hstored]
    refine ⟨?_, fun hnone => (nomatch hrow.symm.trans hnone), fun row' hrow' => ?_⟩
    · rw [hanswer]
      cases stored <;> rfl
    · obtain rfl : row = row' := Option.some.inj (hrow.symm.trans hrow')
      cases stored <;> exact hkeys

theorem filled_find (h : w.faults = {}) (hread : (w.read? (key id)).bind Cache.decode = none)
    (config : Config) : Filled config id w ((find config id).run w) := by
  have hasks : (Cache.find id).Asks (Within Store.Reads fun c => ∃ name, c = .get name) :=
    (Cache.asks_find id).mono (Within.mono (fun _ h => h) fun _ h => ⟨_, h⟩)
  obtain ⟨hsame, hfaults⟩ := hasks.run_same h
  obtain ⟨w₁, hrun⟩ := Cache.find_read id w
  rw [hread] at hrun
  rw [hrun] at hsame hfaults
  rw [find_eq, run_bind_ok _ hrun]
  obtain ⟨hanswer, hmissing, hstored⟩ := filled_populated hfaults config id
  rw [hsame.table, hsame.keys] at hmissing
  rw [hsame.table, hsame.keys, hsame.attached, hsame.now] at hstored
  rw [hsame.table] at hanswer
  exact ⟨hanswer, hmissing, hstored⟩

end Identity

/-! ## Texts put past the service -/

/-- The world with a text under the key of an account, until an instant. -/
def World.planted (w : World) (id : Uuid) (text : String) (expires : Instant) : World :=
  { w with keys := w.keys.put (key id) ⟨text, expires⟩ }

/-- The copy of a row is under the key of the account with its whole lifetime, and look-ups answer it
from there until that is over, without a statement. -/
structure World.Renewed (setup : Setup) (id : Uuid) (row : Store.Row) (w : World) : Prop where
  entry : ∃ e, w.keys.live? w.now (key id) = some e ∧ Cache.decode e.value = some row.account ∧
    e.expires = w.now + setup.identity.cacheSeconds * second
  next : ∀ span faults, 0 ≤ span → span < setup.identity.cacheSeconds * second →
    faults.get.head?.join = none →
    ∀ y, y = Move.record setup ⟨.find id, faults⟩ (w.atTime (w.now + span)) →
      y.answer = .ok (.account (some row.account)) ∧
      ∀ x ∈ y.exchanges, ∀ s, x.request ≠ .sql s

/-- What a look-up does about a text under the key of its account. -/
structure Heals (setup : Setup) (id : Uuid) (text : String) (x : Record) : Prop where
  /-- Whatever the text is, a look-up fails only for an account that is not there. -/
  error : ∀ e, x.answer = .error e →
    e = .failure { cause := .unknownAccount, operation := some "identity.get_by_id" }
  /-- A text that is no account counts as nothing. -/
  answer : Cache.decode text = none → x.answer = Answer.found x.before.table id
  /-- The copy of the row takes its place, over a connection that takes the lifetime of copies. -/
  renewed : Cache.decode text = none → ∀ row, x.before.table.find? id = some row →
    x.before.attached = true → Cache.accepts x.before.now setup.identity.cacheSeconds = true →
    x.after.Renewed setup id row
  /-- Without a row the keys stay as they are. -/
  missing : Cache.decode text = none → x.before.table.find? id = none →
    x.answer = .error
      (.failure { cause := .unknownAccount, operation := some "identity.get_by_id" }) ∧
    x.after.keys = x.before.keys

/-- What is read under the key of a text is the text, or nothing. -/
theorem World.read?_planted (w : World) (id : Uuid) (text : String) (expires : Instant) :
    (((w.planted id text expires).facing {}).read? (key id)).bind Cache.decode = none ∨
      (((w.planted id text expires).facing {}).read? (key id)).bind Cache.decode =
        Cache.decode text := by
  unfold read?
  split
  · show (((w.keys.put (key id) ⟨text, expires⟩).live? w.now (key id)).map _).bind _ = none ∨
      (((w.keys.put (key id) ⟨text, expires⟩).live? w.now (key id)).map _).bind _ = _
    rw [Cache.Keyspace.live?_put_self]
    split
    · exact .inr rfl
    · exact .inl rfl
  · exact .inl rfl

theorem World.unread_planted (w : World) (htext : Cache.decode text = none) (id : Uuid)
    (expires : Instant) :
    (((w.planted id text expires).facing {}).read? (key id)).bind Cache.decode = none := by
  rcases w.read?_planted id text expires with h | h
  · exact h
  · exact h.trans htext

/-- An entry that has not expired is read over a working connection. -/
theorem World.read?_of_live {now : Instant} {name : String} {e : Cache.Entry} {faults : Faults}
    (hattached : w.attached = true) (hlive : w.keys.live? now name = some e)
    (hget : faults.get.head?.join = none) :
    ((w.atTime now).facing faults).read? name = some e.value := by
  have hguard : ((w.atTime now).facing faults).attached = true ∧
      ((w.atTime now).facing faults).faults.get.head?.join = none := ⟨hattached, hget⟩
  rw [World.read?, if_pos hguard]
  show (w.keys.live? now name).map _ = _
  rw [hlive]
  rfl

/-- A copy that has just been stored is answered until its lifetime is over. -/
theorem World.renewed_of_entry (hattached : w.attached = true)
    (hentry : Assoc.get? (key id) w.keys = some (Cache.copyOf w.now setup.identity.cacheSeconds row))
    (hpositive : 0 < setup.identity.cacheSeconds)
    (hfits : Store.fitsColumn row.profile.postcode = true) : w.Renewed setup id row := by
  have hdecode : Cache.decode (Cache.encode row.account) = some row.account :=
    Cache.decode_encode hfits
  have hlater {now : Instant} (h : now < w.now + setup.identity.cacheSeconds * second) :
      w.keys.live? now (key id) = some (Cache.copyOf w.now setup.identity.cacheSeconds row) :=
    Cache.Keyspace.live?_eq_some.2 ⟨hentry, h⟩
  constructor
  case entry =>
    have hsecond : 0 < setup.identity.cacheSeconds * second := Int.mul_pos hpositive (by decide)
    exact ⟨_, hlater (Int.lt_add_of_pos_right w.now hsecond), hdecode, rfl⟩
  case next =>
    rintro span faults - hspan hget y rfl
    have htext := World.read?_of_live hattached (hlater (Int.add_lt_add_left hspan w.now)) hget
    have hread : (((w.atTime (w.now + span)).facing faults).read? (key id)).bind Cache.decode =
        some row.account := by
      rw [htext, Option.bind_some]
      dsimp only [Cache.copyOf]
      rw [hdecode]
    obtain ⟨hanswer, hquiet⟩ := Identity.find_of_read hread setup.identity
    rw [Move.record_answer, Move.record_exchanges, Step.run_find, Step.trace_find]
    dsimp only
    rw [hanswer]
    exact ⟨rfl, hquiet⟩

/-- A look-up heals whatever text is under the key of its account. -/
theorem World.heals (hfits : w.table.Fits) (setup : Setup) (id : Uuid) (text : String)
    (expires : Instant) :
    Heals setup id text (Move.record setup ⟨.find id, {}⟩ (w.planted id text expires)) := by
  have hanswer (hread : (((w.planted id text expires).facing {}).read? (key id)).bind Cache.decode =
      none) : (Move.record setup ⟨.find id, {}⟩ (w.planted id text expires)).answer =
        Answer.found w.table id := by
    rw [Move.record_answer, Step.run_find]
    dsimp only
    rw [(Identity.filled_find rfl hread setup.identity).answer]
    rfl
  constructor
  case error =>
    intro e he
    cases hread : (((w.planted id text expires).facing {}).read? (key id)).bind Cache.decode with
    | none =>
      rw [hanswer hread] at he
      unfold Answer.found Identity.lookUp at he
      cases hrow : w.table.find? id with
      | none =>
        rw [hrow] at he
        exact (Except.error.inj he).symm
      | some row =>
        rw [hrow] at he
        cases he
    | some account =>
      rw [Move.record_answer, Step.run_find] at he
      dsimp only at he
      rw [(Identity.find_of_read hread setup.identity).1] at he
      cases he
  case answer => exact fun htext => hanswer (w.unread_planted htext id expires)
  case renewed =>
    intro htext row hrow hattached haccepts
    have hfilled := Identity.filled_find rfl (w.unread_planted htext id expires) setup.identity
    have hkeys := hfilled.stored row hrow
    rw [if_pos ⟨hattached, haccepts⟩] at hkeys
    have hafter :
        ((Identity.find setup.identity id).run ((w.planted id text expires).facing {})).2.now =
          w.now := Action.run_now _ _
    have hpositive : 0 < setup.identity.cacheSeconds := by
      unfold Cache.accepts at haccepts
      rw [Bool.and_eq_true, Bool.and_eq_true, decide_eq_true_eq] at haccepts
      exact haccepts.1.2
    refine World.renewed_of_entry ?_ ?_ hpositive (hfits row (Store.Table.mem_of_find? hrow))
    · rw [Move.record_after, Step.run_find]
      exact ((Identity.asks_find setup.identity id).run_attached _).trans hattached
    · rw [Move.record_keys, Move.record_now, Step.run_find]
      dsimp only
      rw [hkeys, hafter]
      exact Assoc.get?_set_self _ _ _
  case missing =>
    intro htext hrow
    refine ⟨?_, ?_⟩
    · rw [hanswer (w.unread_planted htext id expires)]
      unfold Answer.found Identity.lookUp
      rw [show w.table.find? id = none from hrow]
      rfl
    · rw [Move.record_keys, Step.run_find]
      exact (Identity.filled_find rfl (w.unread_planted htext id expires) setup.identity).missing
        hrow

/-- What is left when the text stays: the table has answered, and the text is under the key still. -/
structure Neglects (id : Uuid) (text : String) (x : Record) : Prop where
  answer : ∃ row, x.before.table.find? id = some row ∧ x.answer = .ok (.account (some row.account))
  entry : ∃ e, x.after.keys.live? x.after.now (key id) = some e ∧ e.value = text

/-- Without a connection, or with a lifetime that it does not take, such a text stays where it is. -/
theorem World.neglects (hfits : w.table.Fits) (htext : Cache.decode text = none)
    (hrow : w.table.find? id = some row)
    (h : w.attached = false ∨ Cache.accepts w.now setup.identity.cacheSeconds = false)
    {expires : Instant} (hexpires : w.now < expires) :
    Neglects id text (Move.record setup ⟨.find id, {}⟩ (w.planted id text expires)) := by
  have hnot : ¬ (w.attached = true ∧ Cache.accepts w.now setup.identity.cacheSeconds = true) := by
    rintro ⟨hattached, haccepts⟩
    rcases h with h | h
    · rw [hattached] at h
      cases h
    · rw [haccepts] at h
      cases h
  constructor
  case answer =>
    refine ⟨row, hrow, ((World.heals hfits setup id text expires).answer htext).trans ?_⟩
    show Answer.found w.table id = _
    unfold Answer.found Identity.lookUp
    rw [hrow]
    rfl
  case entry =>
    have hfilled := Identity.filled_find rfl (w.unread_planted htext id expires) setup.identity
    have hkeys : (Move.record setup ⟨.find id, {}⟩ (w.planted id text expires)).after.keys =
        w.keys.put (key id) ⟨text, expires⟩ := by
      rw [Move.record_keys, Step.run_find]
      exact (hfilled.stored row hrow).trans (if_neg hnot)
    have hnow :
        (Move.record setup ⟨.find id, {}⟩ (w.planted id text expires)).after.now = w.now := by
      rw [Move.record_now, Step.run_find]
      exact Action.run_now _ _
    rw [hkeys, hnow, Cache.Keyspace.live?_put_self, if_pos hexpires]
    exact ⟨_, rfl, rfl⟩

/-- **Copies that cannot be read heal.**  Whatever text is put past the service under the key of an
account after any run, a look-up without faults fails only for an account that is not there.  If the
text is no account the look-up answers what the table has, and over a connection that takes the
lifetime of copies the copy of the row is then under the key with its whole lifetime, and is what
the next look-ups answer without a statement; without a row no key changes. -/
theorem unreadable_copies_heal (setup : Setup) (now : Instant) (salt : String) (faults : Faults)
    (moves : List Move) (id : Uuid) (text : String) (expires : Instant) :
    Heals setup id text (Move.record setup ⟨.find id, {}⟩
      ((finish setup moves (World.started setup now salt faults)).planted id text expires)) :=
  World.heals (finish_fits (World.started_fits setup now salt faults)) setup id text expires

/-- The same of a world that the text is put into. -/
theorem Heals.renews {m : Move} {expires : Instant}
    (h : Heals setup id text (Move.record setup m (w.planted id text expires)))
    (htext : Cache.decode text = none) (htable : w.table = [row]) (hid : id = row.profile.id)
    (hattached : w.attached = true)
    (haccepts : Cache.accepts w.now setup.identity.cacheSeconds = true) :
    (Move.record setup m (w.planted id text expires)).after.Renewed setup id row := by
  subst hid
  exact h.renewed htext row (Store.Table.find?_singleton htable) hattached haccepts

theorem decode_garbage : Cache.decode "garbage" = none := by decide +kernel

theorem Move.record_register_attached (setup : Setup) (r : Registration) (faults : Faults)
    (w : World) : (Move.record setup ⟨.register r, faults⟩ w).after.attached = w.attached := by
  have hasks : (Identity.register setup.identity r).Asks
      (Within (Identity.RegisterStatement r) fun _ => False) :=
    Identity.asks_register setup.identity r
  rw [Move.record_after, Step.run_register]
  dsimp only [World.settled]
  rw [hasks.run_attached]
  rfl

theorem sampleWorld_attached (setup : Setup) :
    (sampleWorld setup).attached = (World.started setup 0 sampleSalt {}).attached := by
  unfold sampleWorld sampleEnrolment
  rw [finish_singleton, Move.record_register_attached]

theorem unreadable_copies_heal_sample :
    ∃ row, (sampleWorld .sample).table = [row] ∧
      (Move.record .sample ⟨.find row.profile.id, {}⟩
        ((sampleWorld .sample).planted row.profile.id "garbage" second)).after.Renewed
          .sample row.profile.id row := by
  obtain ⟨row, -, htable⟩ := sampleWorld_table .sample
  have hheals : Heals .sample row.profile.id "garbage"
      (Move.record .sample ⟨.find row.profile.id, {}⟩
        ((sampleWorld .sample).planted row.profile.id "garbage" second)) :=
    unreadable_copies_heal .sample 0 sampleSalt {} sampleEnrolment row.profile.id "garbage" second
  have hattached : (sampleWorld .sample).attached = true := by
    rw [sampleWorld_attached]
    rfl
  have haccepts :
      Cache.accepts (sampleWorld .sample).now Setup.sample.identity.cacheSeconds = true := by
    rw [sampleWorld_now]
    decide +kernel
  exact ⟨row, htable, hheals.renews decode_garbage htable rfl hattached haccepts⟩

/-- The same setup with another lifetime of copies. -/
def Setup.withCacheSeconds (setup : Setup) (seconds : Int) : Setup :=
  { setup with site :=
    { setup.site with identity := { setup.site.identity with cacheSeconds := seconds } } }

theorem sample_neglects {setup : Setup} (htext : Cache.decode text = none)
    (h : (World.started setup 0 sampleSalt {}).attached = false ∨
      Cache.accepts 0 setup.identity.cacheSeconds = false) :
    ∃ id, Neglects id text (Move.record setup ⟨.find id, {}⟩
      ((sampleWorld setup).planted id text second)) := by
  obtain ⟨row, -, htable⟩ := sampleWorld_table setup
  have hfits : (sampleWorld setup).table.Fits :=
    finish_fits (World.started_fits setup 0 sampleSalt {})
  have hlater : (sampleWorld setup).now < second := by
    rw [sampleWorld_now]
    decide
  rw [← sampleWorld_attached, ← sampleWorld_now setup] at h
  exact ⟨row.profile.id, World.neglects hfits htext (Store.Table.find?_singleton htable) h hlater⟩

/-- A text stays when the lifetime of copies is more seconds than can be counted, and when the cache is
not enabled: that a copy cannot be stored is no failure of a look-up. -/
theorem unreadable_copies_can_stay :
    let long := Setup.sample.withCacheSeconds 10000000000000000000
    let off := Setup.sample.uncached
    Cache.decode "garbage" = none ∧
    0 < long.identity.cacheSeconds ∧
    (∃ id, Neglects id "garbage" (Move.record long ⟨.find id, {}⟩
      ((sampleWorld long).planted id "garbage" second))) ∧
    0 < off.identity.cacheSeconds ∧
    ∃ id, Neglects id "garbage" (Move.record off ⟨.find id, {}⟩
      ((sampleWorld off).planted id "garbage" second)) := by
  intro long off
  have hlong : Cache.accepts 0 long.identity.cacheSeconds = false := by decide +kernel
  have hoff : (World.started off 0 sampleSalt {}).attached = false := rfl
  exact ⟨decode_garbage, by decide, sample_neglects decode_garbage (.inr hlong), by decide,
    sample_neglects decode_garbage (.inl hoff)⟩

end Accounts
