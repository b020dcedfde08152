import Accounts.Proofs.Cache.Coherence
import Accounts.Proofs.Cache.Origin
import Accounts.Proofs.Cache.Outcome
import Accounts.Proofs.Service.Effects
import Accounts.Proofs.World.Steps

/-!
# Reported invalidations

Over a connection, a copy that is reported to be taken away is gone.  So after a change that logs no
failure to do so there is no copy of what was before it, and none comes back: whoever takes up the
connection later, look-ups answer the row as the change left it.

    change over a connection, no failure logged  ->  find id = error  |  the row after the change
-/

namespace Accounts

open Accounts.Action
open Accounts.Request (Within)
open Cache (key)
open Calendar

variable {α : Type} {id : Uuid} {row? : Option Store.Row} {w : World} {r : Request}

/-! ## One row and its copies -/

/-- An account has a certain row or none, and its copies are those of the row. -/
structure Copied (id : Uuid) (row? : Option Store.Row) (w : World) : Prop where
  row : w.table.find? id = row?
  fits : w.table.Fits
  fresh : ∀ e, w.keys.live? w.now (key id) = some e →
    ∃ row, row? = some row ∧ Cache.decode e.value = some row.account

/-- A request that changes no row, and puts no text under the key of an account but a copy of its
row. -/
def Request.Agrees (id : Uuid) (row? : Option Store.Row) : Request → Prop
  | .sql s => Store.Reads s
  | .cache c => ∀ seconds value, c = .setFor (key id) seconds value →
    ∃ row, row? = some row ∧ Cache.decode value = some row.account
  | .clock | .salt | .log _ | .connection _ => True

theorem Request.agrees_of_within {C : Cache.Command → Prop} (hC : ∀ c, C c → c.Spares (key id))
    (r : Request) (hr : r.Within Store.Reads C) : r.Agrees id row? := by
  cases r with
  | sql s => exact hr
  | cache c =>
    rintro seconds value rfl
    exact absurd rfl (hC _ hr)
  | clock | salt | log | connection => trivial

theorem Copied.answer (hw : Copied id row? w) (hr : r.Agrees id row?) :
    Copied id row? (w.answer r).2 := by
  have htable : (w.answer r).2.table = w.table := by
    cases r with
    | sql s => exact World.answer_reads (C := fun _ => False) (r := .sql s) hr
    | clock | salt | log | cache | connection => exact w.answer_table fun s hs => by cases hs
  refine ⟨htable ▸ hw.row, World.answer_fits r hw.fits, fun e he => ?_⟩
  rw [World.answer_now] at he
  cases r with
  | cache c =>
    change (w.runCommand c).2.keys.live? w.now (key id) = some e at he
    rcases World.runCommand_keys w c with hkeys | hkeys
    · rw [hkeys] at he
      exact hw.fresh e he
    · rw [hkeys] at he
      rcases Cache.Command.live?_origin he with ⟨e', he', hvalue⟩ | ⟨seconds, hc⟩
      · rw [← hvalue]
        exact hw.fresh e' he'
      · exact hr seconds e.value hc
  | clock | salt | log | sql | connection =>
    rw [World.answer_keys w fun c hc => by cases hc] at he
    exact hw.fresh e he

theorem Copied.run (hw : Copied id row? w) {a : Action α} (ha : a.Asks (Request.Agrees id row?)) :
    Copied id row? (a.run w).2 :=
  Program.Asks.run_keeps ha (fun _ _ hr hw => hw.answer hr) hw

/-- What only reads rows and puts no text under the key of the account keeps its copies those of its
row. -/
theorem Copied.run_within (hw : Copied id row? w) {a : Action α} {C : Cache.Command → Prop}
    (ha : a.Asks (Within Store.Reads C)) (hC : ∀ c, C c → c.Spares (key id)) :
    Copied id row? (a.run w).2 :=
  hw.run (ha.mono (Request.agrees_of_within hC))

/-! ## Look-ups -/

namespace Identity

/-- A look-up that finds no copy stores that of the current row. -/
theorem copied_populated (hw : Copied id row? w) (config : Config) (other : Uuid) :
    Copied id row? ((populated config other).run w).2 := by
  have hlooked : Copied id row? ((looked other).run w).2 :=
    hw.run_within (C := fun _ => False) ((asks_looked other).mono
      (Within.mono (fun _ h => by rw [h]; trivial) fun _ h => h)) fun _ h => h.elim
  unfold populated
  rcases looked_cases w other with ⟨e, w₁, h₁⟩ | ⟨row, w₁, hrow, h₁⟩
  all_goals
    rw [h₁] at hlooked
  · rw [run_bind_error _ h₁]
    exact hlooked
  · rw [run_bind_ok _ h₁]
    refine hlooked.run (Asks.bind ((Cache.asks_store (S := fun _ => False) row.account
      config.cacheSeconds).mono fun r hr => ?_) fun stored => ?_)
    · cases r with
      | cache c =>
        obtain rfl : c = _ := hr
        intro seconds value hset
        obtain ⟨hkey, -, rfl⟩ := Cache.Command.setFor.inj hset
        have hid : row.profile.id = other := Store.Table.id_of_find? hrow
        obtain rfl : row.profile.id = id := Cache.key_injective hkey
        rw [← hid, hw.row] at hrow
        exact ⟨row, hrow, Cache.decode_encode (hw.fits row
          (Store.Table.mem_of_find? (hw.row.trans hrow)))⟩
      | sql | connection => exact hr.elim
      | clock | salt | log => trivial
    · dsimp only
      split
      · exact (asks_log trivial).bind fun _ => asks_pure _
      · exact asks_pure _

theorem copied_find (hw : Copied id row? w) (config : Config) (other : Uuid) :
    Copied id row? ((find config other).run w).2 := by
  have hcached : Copied id row? ((Cache.find other).run w).2 :=
    hw.run_within (Cache.asks_find other) fun c hc => by subst hc; trivial
  obtain ⟨cached, w₁, h₁⟩ := Cache.returns_find other w
  rw [h₁] at hcached
  rw [find_eq, run_bind_ok _ h₁]
  cases cached with
  | some account => exact hcached
  | none => exact copied_populated hcached config other

/-- A look-up fails, or answers the row. -/
theorem find_of_copied (hw : Copied id row? w) (config : Config) :
    (∃ e, ((find config id).run w).1 = .error e) ∨
    ∃ row, row? = some row ∧ ((find config id).run w).1 = .ok row.account := by
  rcases find_cases config id w with ⟨herror | ⟨e, account, he, hdecode, hok⟩, -⟩ |
    ⟨row, hrow, hok, -⟩
  · exact .inl herror
  · obtain ⟨row, hrow, haccount⟩ := hw.fresh e he
    rw [hdecode] at haccount
    obtain rfl := Option.some.inj haccount
    exact .inr ⟨row, hrow, hok⟩
  · exact .inr ⟨row, hw.row.symm.trans hrow, hok⟩

end Identity

/-! ## Steps that settle nothing -/

/-- A step that changes no row and puts no text under a key but the copy of a row: look-ups and
logins, the connection and its commands, and time that does not go back. -/
def Step.Quiet : Step → Prop
  | .find _ | .login _ | .storeFind _ | .storeFindByEmail _ => True
  | .cacheFind _ | .cacheDrop _ | .cacheExpire _ => True
  | .get _ | .deleteKeys _ | .expire .. | .ping => True
  | .connect | .close | .attach | .isConnected => True
  | .advance span => 0 ≤ span
  | .setSalt _ | .peek => True
  | _ => False

/-- The requests of such a step, but for those of a look-up, read the table and put no text under a
key. -/
theorem Step.Quiet.mayAsk {setup : Setup} {step : Step} (h : step.Quiet)
    (hfind : ∀ other, step ≠ .find other) (hr : step.MayAsk setup r) : r.Agrees id row? := by
  cases step with
  | find other => exact absurd rfl (hfind other)
  | login | storeFind | storeFindByEmail =>
    refine Request.agrees_of_within (fun _ hc => hc.elim) r (hr.mono (fun s hs => ?_) fun _ hc => hc)
    cases hs
    trivial
  | cacheFind | get | deleteKeys | expire | ping =>
    refine Request.agrees_of_within (fun c hc => ?_) r (hr.mono (fun _ hs => hs.elim) fun _ hc => hc)
    cases hc
    trivial
  | cacheDrop | cacheExpire =>
    refine Request.agrees_of_within (fun c hc => ?_) r (hr.mono (fun _ hs => hs.elim) fun _ hc => hc)
    rcases hc with rfl | rfl <;> trivial
  | connect =>
    cases r with
    | cache c =>
      rintro seconds value rfl
      exact hr.elim
    | clock | salt | sql => exact hr.elim
    | log | connection => trivial
  | close => rcases hr with rfl | ⟨_, rfl⟩ <;> trivial
  | attach =>
    cases hr
    trivial
  | advance | setSalt | isConnected | peek => exact hr.elim
  | _ => exact h.elim

theorem Copied.step (hw : Copied id row? w) (setup : Setup) {step : Step} (hstep : step.Quiet) :
    Copied id row? (step.run setup w).2 := by
  by_cases hfind : ∃ other, step = .find other
  · obtain ⟨other, rfl⟩ := hfind
    rw [Step.run_find]
    exact Identity.copied_find hw setup.identity other
  cases ha : step.action? setup with
  | some a =>
    refine Step.run_keeps_of_asks (I := Copied id row?) ha (fun r w hr hw => hw.answer ?_) hw
    exact hstep.mayAsk (fun other heq => hfind ⟨other, heq⟩) hr
  | none =>
    unfold Step.run
    rw [ha]
    cases step with
    | advance span =>
      refine ⟨hw.row, hw.fits, fun e he => hw.fresh e (Cache.Keyspace.live?_later ?_ he)⟩
      exact Int.le_add_of_nonneg_right hstep
    | _ => exact ⟨hw.row, hw.fits, hw.fresh⟩

/-- All through later moves that settle nothing, the copies of an account are those of its row. -/
theorem Copied.finish (hw : Copied id row? w) (setup : Setup) {moves : List Move}
    (hmoves : ∀ m ∈ moves, m.step.Quiet) : Copied id row? (finish setup moves w) := by
  refine finish_keeps (I := Copied id row?) (fun m hm w hw => ?_) hw
  have hfacing : Copied id row? (w.facing m.faults) := ⟨hw.row, hw.fits, hw.fresh⟩
  obtain ⟨hrow, hfits, hfresh⟩ := hfacing.step setup (hmoves m hm)
  exact ⟨hrow, hfits, hfresh⟩

/-- A look-up at the end of such moves fails, or answers the row. -/
theorem Copied.record_find (hw : Copied id row? w) (setup : Setup) (faults : Faults) :
    (∃ e, (Move.record setup ⟨.find id, faults⟩ w).answer = .error e) ∨
    ∃ row, row? = some row ∧
      (Move.record setup ⟨.find id, faults⟩ w).answer = .ok (.account (some row.account)) := by
  have hfacing : Copied id row? (w.facing faults) := ⟨hw.row, hw.fits, hw.fresh⟩
  rw [Move.record_answer, Step.run_find]
  rcases Identity.find_of_copied hfacing setup.identity with ⟨e, he⟩ | ⟨row, hrow, hok⟩
  · exact .inl ⟨e, by rw [he]; rfl⟩
  · exact .inr ⟨row, hrow, by rw [hok]; rfl⟩

/-! ## Changes -/

/-- A copy of an account could be taken away, if there is one. -/
def World.Reaches (w : World) (id : Uuid) : Prop :=
  w.attached = true ∨ w.keys.live? w.now (key id) = none

namespace Identity

variable {S : Store.Statement → Prop} {C : Cache.Command → Prop} {β : Type}

/-- What follows a change runs in a world without a copy that could be taken away, or it was logged
that this failed. -/
theorem run_change {a : Action α} (ha : a.Asks (Within S C)) (hid : w.Reaches id)
    {x : α} {w₁ : World} (h : a.run w = (.ok x, w₁)) (name : String) (f : α → Action β) :
    ∃ keys faults events, (a >>= fun x => invalidate name id >>= fun _ => f x).run w =
        (f x).run { w₁ with keys := keys, faults := faults, events := events } ∧
      (Cache.Keyspace.live? keys w₁.now (key id) = none ∨ .invalidationFailed name id ∈ events) := by
  have hdone : ∃ keys faults events, (invalidate name id).run w₁ =
        (.ok (), { w₁ with keys := keys, faults := faults, events := events }) ∧
      (Cache.Keyspace.live? keys w₁.now (key id) = none ∨ .invalidationFailed name id ∈ events) := by
    cases hattached : w.attached with
    | true =>
      have hconn := ha.run_attached w
      rw [h, hattached] at hconn
      exact invalidate_cases hconn name id
    | false =>
      have hdead : w.keys.live? w.now (key id) = none := by
        rcases hid with hconn | hdead
        · rw [hattached] at hconn
          cases hconn
        · exact hdead
      have hkept := World.run_detached hattached ha
      have hnow := Action.run_now a w
      rw [h] at hkept hnow
      refine ⟨w₁.keys, w₁.faults, w₁.events, invalidate_of_detached hkept.1 name id, .inl ?_⟩
      rw [hkept.2, show w₁.now = w.now from hnow, hdead]
  obtain ⟨keys, faults, events, hrun, hgone⟩ := hdone
  refine ⟨keys, faults, events, ?_, hgone⟩
  rw [run_bind_ok _ h, run_bind_ok _ hrun]

/-- An update that is answered leaves the new row, without a copy of an older one, unless it logs that
the copy could not be taken away. -/
theorem copied_update (hid : w.Reaches id) (hfits : w.table.Fits) {d : Details}
    {account : Account} (h : ((update id d).run w).1 = .ok account) :
    (∃ row, row.account = account ∧ Copied id (some row) ((update id d).run w).2) ∨
      ∃ name, .invalidationFailed name id ∈ ((update id d).run w).2.events := by
  rcases update_cases w id d with ⟨⟨e, he⟩, -⟩ | ⟨prepared, row, time, -, hrow, -, hok, htable⟩
  · rw [h] at he
    cases he
  rw [h] at hok
  rcases hrevised : (revised id d).run w with ⟨e | x, w₁⟩
  · rw [update_eq, run_bind_error _ hrevised] at h
    cases h
  obtain ⟨keys, faults, events, hrun, hgone⟩ :=
    run_change (asks_revised (C := fun _ => False) id d) hid hrevised "identity.update"
      fun account => pure account
  have hfind : ((update id d).run w).2.table.find? id = some (row.revised prepared time) := by
    have hsame := (row.revised_id prepared time).trans (Store.Table.id_of_find? hrow)
    rw [htable, Store.Table.find?_replace_self hsame, hrow]
    rfl
  have hkept : ((update id d).run w).2.table.Fits := Program.run_fits _ hfits
  rw [update_eq, hrun] at hfind hkept ⊢
  rcases hgone with hgone | hlogged
  · refine .inl ⟨row.revised prepared time, (Except.ok.inj hok).symm, hfind, hkept, fun e he => ?_⟩
    change Cache.Keyspace.live? keys w₁.now (key id) = some e at he
    rw [hgone] at he
    cases he
  · exact .inr ⟨_, hlogged⟩

/-- A deletion that is answered leaves no row and no copy, unless it logs that the copy could not be
taken away. -/
theorem copied_delete (hid : w.Reaches id) (hfits : w.table.Fits)
    (h : ((delete id).run w).1 = .ok ()) :
    Copied id none ((delete id).run w).2 ∨
      ∃ name, .invalidationFailed name id ∈ ((delete id).run w).2.events := by
  rcases delete_cases w id with ⟨⟨e, he⟩, -⟩ | ⟨row, hrow, -, htable⟩
  · rw [h] at he
    cases he
  rcases hremoved : (removed id).run w with ⟨e | x, w₁⟩
  · rw [delete_eq, run_bind_error _ hremoved] at h
    cases h
  obtain ⟨keys, faults, events, hrun, hgone⟩ :=
    run_change (asks_removed (C := fun _ => False) id) hid hremoved "identity.delete"
      fun _ => log (.accountDeleted id)
  have hfind : ((delete id).run w).2.table.find? id = none := by
    rw [htable, Store.Table.find?_remove_self]
  have hkept : ((delete id).run w).2.table.Fits := Program.run_fits _ hfits
  rw [delete_eq, hrun] at hfind hkept ⊢
  rcases hgone with hgone | hlogged
  · refine .inl ⟨hfind, hkept, fun e he => ?_⟩
    change Cache.Keyspace.live? keys w₁.now (key id) = some e at he
    rw [hgone] at he
    cases he
  · exact .inr ⟨_, List.mem_append_left _ hlogged⟩

end Identity

/-! ## Runs -/

/-- Whatever quiet moves come after a world and whatever faults they meet, a look-up at their end fails
or answers an account with a property. -/
def World.Serves (setup : Setup) (w : World) (id : Uuid) (P : Account → Prop) : Prop :=
  ∀ (later : List Move) (faults : Faults), (∀ m ∈ later, m.step.Quiet) →
    (∃ e, (Move.record setup ⟨.find id, faults⟩ (finish setup later w)).answer = .error e) ∨
    ∃ account, P account ∧ (Move.record setup ⟨.find id, faults⟩ (finish setup later w)).answer =
      .ok (.account (some account))

theorem Copied.serves (hw : Copied id row? w) (setup : Setup) :
    w.Serves setup id fun account => ∃ row, row? = some row ∧ row.account = account := by
  intro later faults hlater
  rcases (hw.finish setup hlater).record_find setup faults with herror | ⟨row, hrow, hok⟩
  · exact .inl herror
  · exact .inr ⟨row.account, ⟨row, hrow, rfl⟩, hok⟩

theorem World.Serves.mono {setup : Setup} {P Q : Account → Prop} (h : w.Serves setup id P)
    (hPQ : ∀ account, P account → Q account) : w.Serves setup id Q := by
  intro later faults hlater
  rcases h later faults hlater with herror | ⟨account, hP, hok⟩
  · exact .inl herror
  · exact .inr ⟨account, hPQ account hP, hok⟩

/-- The step takes the copy of an account away. -/
def Step.Drops (id : Uuid) (step : Step) : Prop := step = .cacheDrop id ∨ step = .cacheExpire id

theorem Step.Drops.run_cases {step : Step} (h : step.Drops id) (setup : Setup)
    (hid : w.Reaches id) :
    ((step.run setup w).1 = .ok (.flag true) ∧
      (step.run setup w).2.keys.live? (step.run setup w).2.now (key id) = none) ∨
    ((step.run setup w).1 = .ok (.flag false) ∧ (step.run setup w).2.keys = w.keys) := by
  obtain ⟨a, htakes, hdetached, hrun⟩ : ∃ a : Action Bool, Cache.Takes id a ∧
      (w.attached = false → a.run w = (.ok true, w)) ∧
      step.run setup w = ((a.run w).1.map .flag, (a.run w).2) := by
    rcases h with rfl | rfl
    · exact ⟨Cache.drop id, Cache.takes_drop id, fun hd => Cache.carried_of_detached hd _ _ _,
        run_bind_pure _ Answer.flag w⟩
    · exact ⟨Cache.expireNow id, Cache.takes_expireNow id, fun hd => Cache.carried_of_detached hd _ _ _,
        run_bind_pure _ Answer.flag w⟩
  cases hattached : w.attached with
  | true =>
    obtain ⟨flag, keys, faults, events, ha, ⟨rfl, hgone⟩ | ⟨rfl, rfl⟩⟩ := htakes w hattached
    · rw [hrun, ha]
      exact .inl ⟨rfl, hgone⟩
    · rw [hrun, ha]
      exact .inr ⟨rfl, rfl⟩
  | false =>
    rw [hrun, hdetached hattached]
    rcases hid with hconn | hdead
    · rw [hattached] at hconn
      cases hconn
    · exact .inl ⟨rfl, hdead⟩

/-- **Reported invalidations are real.**  In every state of a run in which there is a connection, or
no living copy of an account, taking the copy away reports success and leaves nothing alive under its
key, or reports failure and leaves the keys as they are.  And when an update or a deletion is answered
there without logging that the copy could not be taken away, look-ups answer nothing of before it,
whoever takes up the connection later. -/
theorem reported_invalidations_are_real (setup : Setup) (now : Instant) (salt : String)
    (faults : Faults) (before : List Move) (id : Uuid)
    (hid : (finish setup before (World.started setup now salt faults)).Reaches id) :
    (∀ step faults', Step.Drops id step → ∀ x, x = Move.record setup ⟨step, faults'⟩
        (finish setup before (World.started setup now salt faults)) →
      (x.answer = .ok (.flag true) ∧ x.after.keys.live? x.after.now (key id) = none) ∨
      (x.answer = .ok (.flag false) ∧ x.after.keys = x.before.keys)) ∧
    (∀ d faults' account, ∀ x, x = Move.record setup ⟨.update id d, faults'⟩
        (finish setup before (World.started setup now salt faults)) →
      x.answer = .ok (.account (some account)) →
      (∀ name, .invalidationFailed name id ∉ x.events) →
      x.after.Serves setup id (· = account)) ∧
    ∀ faults' answer, ∀ x, x = Move.record setup ⟨.delete id, faults'⟩
        (finish setup before (World.started setup now salt faults)) →
      x.answer = .ok answer → (∀ name, .invalidationFailed name id ∉ x.events) →
      x.after.Serves setup id fun _ => False := by
  have hfits : (finish setup before (World.started setup now salt faults)).table.Fits := by
    refine finish_fits ?_
    rw [(World.started_empty setup now salt faults).table]
    exact fun row hrow => nomatch hrow
  generalize finish setup before (World.started setup now salt faults) = w at hid hfits
  have hfacing (faults' : Faults) : (w.facing faults').Reaches id := hid
  refine ⟨?_, ?_, ?_⟩
  · rintro step faults' hstep x rfl
    exact hstep.run_cases setup (hfacing faults')
  · rintro d faults' account x rfl hanswer hevents
    rw [Move.record_answer, Step.run_update] at hanswer
    rw [Move.record_events, Step.run_update] at hevents
    obtain ⟨_, hok, haccount⟩ := map_eq_ok hanswer
    cases haccount
    rcases Identity.copied_update (hfacing faults') hfits hok with
      ⟨row, haccount, hcopied⟩ | ⟨name, hlogged⟩
    · have hafter : Copied id (some row) (Move.record setup ⟨.update id d, faults'⟩ w).after := by
        rw [Move.record_after, Step.run_update]
        exact ⟨hcopied.row, hcopied.fits, hcopied.fresh⟩
      refine (hafter.serves setup).mono ?_
      rintro other ⟨row', hrow', rfl⟩
      rw [← Option.some.inj hrow', haccount]
    · exact absurd hlogged (hevents name)
  · rintro faults' answer x rfl hanswer hevents
    rw [Move.record_answer, Step.run_delete] at hanswer
    rw [Move.record_events, Step.run_delete] at hevents
    obtain ⟨⟨⟩, hok, -⟩ := map_eq_ok hanswer
    rcases Identity.copied_delete (hfacing faults') hfits hok with hcopied | ⟨name, hlogged⟩
    · have hafter : Copied id none (Move.record setup ⟨.delete id, faults'⟩ w).after := by
        rw [Move.record_after, Step.run_delete]
        exact ⟨hcopied.row, hcopied.fits, hcopied.fresh⟩
      exact (hafter.serves setup).mono fun account ⟨row, hrow, _⟩ => nomatch hrow
    · exact absurd hlogged (hevents name)

/-- A run that caches an account. -/
def sampleCaching : List Move := [⟨.cacheStore sampleAccount none, {}⟩]

theorem reported_invalidations_are_real_sample :
    (finish .sample sampleCaching (World.started .sample 0 "" {})).Reaches sampleAccount.id ∧
    ∃ x, x = Move.record .sample ⟨.cacheExpire sampleAccount.id, {}⟩
        (finish .sample sampleCaching (World.started .sample 0 "" {})) ∧
      x.before.keys.live? x.before.now (key sampleAccount.id) ≠ none ∧
      x.answer = .ok (.flag true) ∧ x.after.keys.live? x.after.now (key sampleAccount.id) = none := by
  have hkeys : (finish .sample sampleCaching (World.started .sample 0 "" {})).keys =
      Cache.Keyspace.put [] (key sampleAccount.id) ⟨Cache.encode sampleAccount, 300 * second⟩ := rfl
  refine ⟨.inl rfl, _, rfl, ?_, ?_⟩
  · rw [Move.record_before, hkeys, Cache.Keyspace.live?_put_self]
    exact Option.some_ne_none _
  rcases (reported_invalidations_are_real .sample 0 "" {} sampleCaching sampleAccount.id (.inl rfl)).1
    (.cacheExpire sampleAccount.id) {} (.inr rfl) _ rfl with h | ⟨hfalse, -⟩
  · exact h
  · cases hfalse

/-- The client is closed, and the copy of an account is taken away: that is reported to be done, and
the copy is there as before. -/
theorem closed_client_reports_drop :
    ∃ x, x = Move.record .sample ⟨.cacheDrop sampleAccount.id, {}⟩
        (finish .sample (sampleCaching ++ [⟨.close, {}⟩]) (World.started .sample 0 "" {})) ∧
      x.answer = .ok (.flag true) ∧
      ∃ e, x.after.keys.live? x.after.now (key sampleAccount.id) = some e ∧
        Cache.decode e.value = some sampleAccount := by
  have hkeys : (Move.record .sample ⟨.cacheDrop sampleAccount.id, {}⟩ (finish .sample
      (sampleCaching ++ [⟨.close, {}⟩]) (World.started .sample 0 "" {}))).after.keys =
        Cache.Keyspace.put [] (key sampleAccount.id) ⟨Cache.encode sampleAccount, 300 * second⟩ := rfl
  refine ⟨_, rfl, rfl, ⟨Cache.encode sampleAccount, 300 * second⟩, ?_, Cache.decode_encode rfl⟩
  rw [hkeys, Cache.Keyspace.live?_put_self]
  rfl

end Accounts
