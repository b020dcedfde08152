import Accounts.Proofs.Cache.Codec
import Accounts.Proofs.Cache.Origin
import Accounts.Proofs.World.Steps

/-!
# No copy outlives its time

Every entry of the cache is the copy of a row that the table had at some point of the run, and lives
for the lifetime of copies from that point on.  Nothing lengthens it, whatever fails.  So a look-up
never answers a version of an account that has been gone for as long as that:

    find id answers a  ->  a is the account of id now, or was less than the lifetime ago
-/

namespace Accounts

open Cache (key)
open Calendar

variable {setup : Setup} {start w : World} {moves : List Move}

/-! ## Steps -/

/-- A step of the service, one that takes up or gives up the connection to the cache, a new salt, or
time that does not go back. -/
def Step.Operational : Step → Prop
  | .register _ | .login _ | .update _ _ | .delete _ | .find _ => True
  | .connect | .close | .attach | .setSalt _ => True
  | .advance span => (0 : Int) ≤ span
  | _ => False

theorem Step.now_le {step : Step} (hstep : step.Operational) (setup : Setup) (w : World) :
    w.now ≤ (step.run setup w).2.now := by
  have haction {a : Action Answer} (ha : step.action? setup = some a) :
      w.now ≤ (step.run setup w).2.now := by
    have hnow : (step.run setup w).2.now = w.now := by
      rw [Step.run_action ha]
      exact Action.run_now a w
    exact Int.le_of_eq hnow.symm
  cases step with
  | advance span => exact Int.le_add_of_nonneg_right hstep
  | setSalt salt => exact Int.le_refl _
  | register | login | update | delete | find | connect | close | attach => exact haction rfl
  | _ => exact hstep.elim

/-- The connection is taken up without a look at the entries. -/
theorem Cache.connectRequest_shrinks (r : Request) (hr : Cache.ConnectRequest r) : r.Shrinks := by
  cases r with
  | cache c =>
    cases c with
    | ping => trivial
    | get | setFor | delete | expire => exact hr.elim
  | clock | salt | log | sql | connection => trivial

/-- After a step every entry was there before it, or is the copy of a row that the world has now. -/
theorem Step.entries_origin {step : Step} (hstep : step.Operational) (setup : Setup) (w : World) :
    ∀ p ∈ (step.run setup w).2.keys, p ∈ w.keys ∨ w.Copies setup.identity.cacheSeconds p := by
  have hshrinks {a : Action Answer} (ha : step.action? setup = some a)
      (hr : ∀ r, step.MayAsk setup r → r.Shrinks) : ∀ p ∈ (step.run setup w).2.keys,
        p ∈ w.keys ∨ w.Copies setup.identity.cacheSeconds p := by
    rw [Step.run_action ha]
    exact fun p hp => .inl (((Step.asks ha).mono hr).entries w hp)
  cases step with
  | register | login =>
    exact hshrinks rfl (Request.shrinks_of_within (C := fun _ => False) fun _ hc => hc.elim)
  | update | delete => exact hshrinks rfl (Request.shrinks_of_within fun _ => Cache.Drops.shrinks)
  | find id =>
    rw [Step.run_find]
    rcases Identity.find_cases setup.identity id w with ⟨-, hsame⟩ | ⟨row, hrow, -, hadded⟩
    · exact fun p hp => .inl (hsame hp)
    · exact fun p hp => (hadded p hp).imp_right fun heq => ⟨id, row, hrow, heq⟩
  | connect => exact hshrinks rfl Cache.connectRequest_shrinks
  | close => exact hshrinks rfl fun r hr => by rcases hr with rfl | ⟨_, rfl⟩ <;> trivial
  | attach => exact hshrinks rfl fun r hr => by cases hr; trivial
  | advance | setSalt => exact fun p hp => .inl hp
  | _ => exact hstep.elim

/-! ## Runs -/

/-- The clock of a run never goes back. -/
theorem finish_now_le (setup : Setup) (hmoves : ∀ m ∈ moves, m.step.Operational) {past : List Move}
    (hpast : past <+: moves) (start : World) :
    (finish setup past start).now ≤ (finish setup moves start).now := by
  obtain ⟨rest, rfl⟩ := hpast
  rw [finish_append]
  refine finish_keeps (I := fun w => (finish setup past start).now ≤ w.now) (fun m hm w hw => ?_)
    (Int.le_refl _)
  exact Int.le_trans hw
    (Step.now_le (hmoves m (List.mem_append_right past hm)) setup (w.facing m.faults))

/-- After a run every entry was there at its start, or is the copy of a row that the table had at some
point of it. -/
theorem finish_entries_origin (hmoves : ∀ m ∈ moves, m.step.Operational) :
    ∀ p ∈ (finish setup moves start).keys, p ∈ start.keys ∨
      ∃ past, past <+: moves ∧ (finish setup past start).Copies setup.identity.cacheSeconds p := by
  induction moves generalizing start with
  | nil => exact fun p hp => .inl hp
  | cons m moves ih =>
    intro p hp
    rcases ih (fun m' hm' => hmoves m' (List.mem_cons_of_mem m hm')) p hp with
      hp | ⟨past, hpast, hcopies⟩
    · rcases Step.entries_origin (hmoves m List.mem_cons_self) setup _ p hp with hp | hp
      · exact .inl hp
      · exact .inr ⟨[], List.nil_prefix, hp⟩
    · exact .inr ⟨m :: past, List.cons_prefix_cons.2 ⟨rfl, hpast⟩, hcopies⟩

/-- The origin of an entry, in a run that starts with none. -/
theorem finish_copies (hmoves : ∀ m ∈ moves, m.step.Operational) (hkeys : start.keys = [])
    (hfits : start.table.Fits) {p : String × Cache.Entry} (hp : p ∈ (finish setup moves start).keys) :
    ∃ past id row, past <+: moves ∧ (finish setup past start).table.find? id = some row ∧
      p = (key id, Cache.copyOf (finish setup past start).now setup.identity.cacheSeconds row) ∧
      Cache.decode p.2.value = some row.account := by
  rcases finish_entries_origin hmoves p hp with hp | ⟨past, hpast, id, row, hrow, rfl⟩
  · rw [hkeys] at hp
    cases hp
  · exact ⟨past, id, row, hpast, hrow, rfl,
      Cache.decode_encode (finish_fits hfits row (Store.Table.mem_of_find? hrow))⟩

/-- What the cache can do to the answers after a run: the accounts that look-ups give and the entries
that are alive are those of rows that the table has, or had less than the lifetime of copies ago. -/
structure StaleWithin (setup : Setup) (start : World) (moves : List Move) : Prop where
  /-- A look-up answers the account of a row that its identifier has now, or had at a point of the run
  less than the lifetime ago. -/
  answers : ∀ id faults answer,
    ((Move.mk (.find id) faults).record setup (finish setup moves start)).answer = .ok answer →
    ∃ past row, past <+: moves ∧ (finish setup past start).table.find? id = some row ∧
      answer = .account (some row.account) ∧
      (past = moves ∨ (finish setup moves start).now - setup.identity.cacheSeconds * second <
        (finish setup past start).now)
  /-- An entry that is alive is under the key of an account that was stored, is read as an account of
  the same identifier without a password, and lives no longer than the lifetime from now. -/
  entries : ∀ p ∈ (finish setup moves start).keys.liveEntries (finish setup moves start).now,
    ∃ id account, p.1 = key id ∧ Cache.decode p.2.value = some account ∧
      account.id = id ∧ account.password = none ∧
      (∃ past row, past <+: moves ∧ (finish setup past start).table.find? id = some row) ∧
      p.2.expires - (finish setup moves start).now ≤ setup.identity.cacheSeconds * second
  /-- A version of an account that was deleted or replaced, and has not come back since, is not
  answered once the lifetime has passed, whatever kept its copy from being taken away. -/
  outlived : ∀ id account gone, gone <+: moves →
    (∀ past row, gone <+: past → past <+: moves →
      (finish setup past start).table.find? id = some row → row.account ≠ account) →
    (finish setup gone start).now + setup.identity.cacheSeconds * second ≤
      (finish setup moves start).now →
    ∀ faults, ((Move.mk (.find id) faults).record setup (finish setup moves start)).answer ≠
      .ok (.account (some account))

theorem finish_answers_origin (setup : Setup) (hmoves : ∀ m ∈ moves, m.step.Operational)
    (hkeys : start.keys = []) (hfits : start.table.Fits) (id : Uuid) (faults : Faults) (answer : Answer)
    (hanswer : ((Move.mk (.find id) faults).record setup (finish setup moves start)).answer =
      .ok answer) :
    ∃ past row, past <+: moves ∧ (finish setup past start).table.find? id = some row ∧
      answer = .account (some row.account) ∧
      (past = moves ∨ (finish setup moves start).now - setup.identity.cacheSeconds * second <
        (finish setup past start).now) := by
  rw [Move.record_answer, Step.run_find] at hanswer
  dsimp only at hanswer
  rcases Identity.find_cases setup.identity id ((finish setup moves start).facing faults) with
    ⟨⟨e, herror⟩ | ⟨entry, account, hlive, hdecode, hok⟩, -⟩ | ⟨row, hrow, hok, -⟩
  · rw [herror] at hanswer
    cases hanswer
  · rw [hok] at hanswer
    obtain rfl := Except.ok.inj hanswer
    rw [Cache.Keyspace.live?_eq_some] at hlive
    obtain ⟨hentry, hexpires⟩ := hlive
    obtain ⟨past, id', row, hpast, hrow, hcopy, hread⟩ :=
      finish_copies hmoves hkeys hfits (Assoc.mem_of_get? hentry)
    obtain ⟨hkey, rfl⟩ := Prod.mk.inj hcopy
    obtain rfl := Cache.key_injective hkey
    obtain rfl := Option.some.inj (hdecode.symm.trans hread)
    exact ⟨past, row, hpast, hrow, rfl, .inr (Int.sub_right_lt_of_lt_add hexpires)⟩
  · rw [hok] at hanswer
    exact ⟨moves, row, List.prefix_refl _, hrow, (Except.ok.inj hanswer).symm, .inl rfl⟩

theorem finish_live_entries (hmoves : ∀ m ∈ moves, m.step.Operational) (hkeys : start.keys = [])
    (hfits : start.table.Fits) :
    ∀ p ∈ (finish setup moves start).keys.liveEntries (finish setup moves start).now,
      ∃ id account, p.1 = key id ∧ Cache.decode p.2.value = some account ∧
        account.id = id ∧ account.password = none ∧
        (∃ past row, past <+: moves ∧ (finish setup past start).table.find? id = some row) ∧
        p.2.expires - (finish setup moves start).now ≤ setup.identity.cacheSeconds * second := by
  intro p hp
  obtain ⟨past, id, row, hpast, hrow, rfl, hread⟩ :=
    finish_copies hmoves hkeys hfits (List.mem_filter.1 hp).1
  have hclock := finish_now_le setup hmoves hpast start
  refine ⟨id, row.account, rfl, hread, Store.Table.id_of_find? hrow, rfl, ⟨past, row, hpast, hrow⟩, ?_⟩
  show (finish setup past start).now + setup.identity.cacheSeconds * second -
    (finish setup moves start).now ≤ setup.identity.cacheSeconds * second
  exact Int.sub_left_le_of_le_add (Int.add_le_add_right hclock _)

/-- **Staleness is bounded.**  However many commands and statements fail, a look-up answers a row that
the table has, or had less than the lifetime of copies ago, in every run of the service during which
the connection comes and goes. -/
theorem staleness_bounded (setup : Setup) (now : Instant) (salt : String) (faults : Faults)
    (moves : List Move) (hmoves : ∀ m ∈ moves, m.step.Operational) :
    StaleWithin setup (World.started setup now salt faults) moves := by
  have hempty := World.started_empty setup now salt faults
  have hfits : (World.started setup now salt faults).table.Fits := by
    rw [hempty.table]
    exact fun row hrow => nomatch hrow
  have hanswers := fun id faults answer =>
    finish_answers_origin setup hmoves hempty.keys hfits id faults answer
  refine ⟨hanswers, finish_live_entries hmoves hempty.keys hfits, ?_⟩
  intro id account gone hgone hchanged hpassed met hanswer
  obtain ⟨past, row, hpast, hrow, haccount, hrecent⟩ := hanswers id met _ hanswer
  obtain rfl : account = row.account := Option.some.inj (Answer.account.inj haccount)
  rcases List.prefix_or_prefix_of_prefix hgone hpast with hlater | hearlier
  · exact hchanged past row hlater hpast hrow rfl
  · rcases hrecent with rfl | hrecent
    · exact hchanged past row hgone hpast hrow rfl
    · have hclock := finish_now_le setup
        (fun m hm => hmoves m (hgone.subset hm)) hearlier (World.started setup now salt faults)
      exact Int.not_lt.2 (Int.le_sub_right_of_add_le hpassed) (Int.lt_of_lt_of_le hrecent hclock)

/-- A run in which an account is deleted while no command gets through to its copy. -/
def sampleOutage : List Move :=
  [⟨.register ⟨{ email := some " Ann@b.co " }, some "secret!"⟩, {}⟩,
    ⟨.attach, {}⟩,
    ⟨.find (World.insertionId 1), {}⟩,
    ⟨.delete (World.insertionId 1), { delete := [some .down, some .down], expire := [some .slow] }⟩,
    ⟨.advance 300000000, {}⟩,
    ⟨.find (World.insertionId 1), { sql := [some .unavailable] }⟩]

theorem staleness_bounded_sampleOutage : (∀ m ∈ sampleOutage, m.step.Operational) ∧
    StaleWithin .sample (World.started .sample 0 "$2b$04$abcdefghijklmnopqrstuu" {})
      sampleOutage := by
  have hmoves : ∀ m ∈ sampleOutage, m.step.Operational := by
    simp only [sampleOutage, List.forall_mem_cons]
    exact ⟨trivial, trivial, trivial, trivial, show (0 : Int) ≤ 300000000 by decide, trivial,
      fun _ hm => nomatch hm⟩
  exact ⟨hmoves, staleness_bounded .sample 0 _ {} sampleOutage hmoves⟩

end Accounts
