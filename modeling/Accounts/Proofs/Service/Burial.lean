import Accounts.Proofs.Cache.Drop
import Accounts.Proofs.Cache.Origin
import Accounts.Proofs.Service.History

/-!
# Accounts that were deleted

An account is buried when it has no row and no copy of it lives.  Only an insertion could bring the
row back, and it gives an identifier of its own; only a look-up could bring the copy back, and it
stores the copy of a row.  So a buried account stays buried, and nothing is answered about it:

    buried, no identifier is given twice  ->  buried after every operation
    find, update, delete of it            ->  fails
-/

namespace Accounts

open Accounts.Action
open Accounts.Request (Within)
open Cache (key)
open Calendar

variable {α β : Type} {setup : Setup} {w w' w'' : World} {moves : List Move} {r : Request}
  {id other : Uuid} {S : Store.Statement → Prop} {C : Cache.Command → Prop}

/-- The account of an identifier has no row, and no copy of it lives. -/
structure Buried (id : Uuid) (w : World) : Prop where
  row : w.table.find? id = none
  copy : w.keys.live? w.now (key id) = none

/-- The insertions from one world to another give other identifiers. -/
def Uuid.UnusedFrom (id : Uuid) (w w' : World) : Prop :=
  ∀ n, w.insertions < n → n ≤ w'.insertions → World.insertionId n ≠ id

/-! ## Where identifiers come from -/

/-- The rows go by the identifiers of insertions that were tried. -/
def World.Numbered (w : World) : Prop :=
  ∀ row ∈ w.table, ∃ n, 0 < n ∧ n ≤ w.insertions ∧ row.profile.id = World.insertionId n

theorem World.Numbered.answer (h : w.Numbered) (r : Request) : (w.answer r).2.Numbered := by
  intro row hrow
  rcases w.answer_ids r hrow with ⟨old, hold, hid⟩ | ⟨hcount, hid⟩
  · obtain ⟨n, hpositive, hle, hn⟩ := h old hold
    exact ⟨n, hpositive, Nat.le_trans hle (w.answer_insertions_le r), hid.symm.trans hn⟩
  · exact ⟨w.insertions + 1, Nat.succ_pos _, Nat.le_of_eq hcount.symm, hid⟩

theorem finish_numbered (h : w.Numbered) : (finish setup moves w).Numbered :=
  finish_keeps (I := World.Numbered) (fun m _ w hw => Step.run_keeps (I := World.Numbered)
    (w := w.facing m.faults) (fun r _ hw => hw.answer r) (fun _ _ hw => hw) (fun _ _ hw => hw)
    setup m.step hw) h

/-- The insertions so far gave no identifier twice. -/
def World.NeverRepeats (w : World) : Prop :=
  ∀ a b, 0 < a → a < b → b ≤ w.insertions → insertionId a ≠ insertionId b

/-- The identifier of a row is not given again. -/
theorem World.Numbered.unused (h : w.Numbered) {row : Store.Row} (hrow : row ∈ w.table)
    (hle : w.insertions ≤ w'.insertions) (hnew : w''.NeverRepeats) :
    row.profile.id.UnusedFrom w' w'' := by
  obtain ⟨first, hpositive, hfirst, hid⟩ := h row hrow
  intro n hn hlast heq
  refine hnew first n hpositive ?_ hlast (hid.symm.trans heq.symm)
  exact Nat.lt_of_le_of_lt (Nat.le_trans hfirst hle) hn

theorem Uuid.UnusedFrom.since (h : id.UnusedFrom w w'') (hle : w.insertions ≤ w'.insertions) :
    id.UnusedFrom w' w'' :=
  fun n hn hlast => h n (Nat.lt_of_le_of_lt hle hn) hlast

theorem Uuid.UnusedFrom.until (h : id.UnusedFrom w w'') (hle : w'.insertions ≤ w''.insertions) :
    id.UnusedFrom w w' :=
  fun n hn hlast => h n hn (Nat.le_trans hlast hle)

/-! ## What leaves an account buried -/

/-- A request that stores no copy of an account. -/
def Request.Spares (id : Uuid) : Request → Prop
  | .cache c => c.Spares (key id)
  | .clock | .salt | .log _ | .sql _ | .connection _ => True

theorem Request.spares_of_within (hC : ∀ c, C c → c.Spares (key id)) (r : Request)
    (hr : r.Within S C) : r.Spares id := by
  cases r with
  | cache c => exact hC c hr
  | clock | salt | log | sql | connection => trivial

theorem Cache.Drops.spares {c : Cache.Command} (h : Cache.Drops other c) (name : String) :
    c.Spares name := by
  rcases h with rfl | rfl
  · trivial
  · trivial

theorem Buried.answer (h : Buried id w) (hr : r.Spares id)
    (hnew : id.UnusedFrom w (w.answer r).2) : Buried id (w.answer r).2 where
  row := by
    rw [Store.Table.find?_eq_none]
    intro row hrow hid
    rcases w.answer_ids r hrow with ⟨old, hold, hsame⟩ | ⟨hcount, hsame⟩
    · exact Store.Table.find?_eq_none.1 h.row old hold (hsame.trans hid)
    · exact hnew (w.insertions + 1) (Nat.lt_succ_self _) (Nat.le_of_eq hcount.symm)
        (hsame.symm.trans hid)
  copy := by
    rw [World.answer_now]
    cases r with
    | cache c => exact World.runCommand_live? (P := (· = none)) h.copy (hr.run_dead h.copy)
    | clock | salt | log | sql | connection =>
      rw [World.answer_keys w fun c hc => by cases hc]
      exact h.copy

theorem Buried.run {p : Program α} (hp : p.Asks (Request.Spares id)) (h : Buried id w)
    (hnew : id.UnusedFrom w (p.run w).2) : Buried id (p.run w).2 := by
  induction hp generalizing w with
  | done a => exact h
  | @ask r next here later ih =>
    have hlater := Program.run_insertions_le (next (w.answer r).1) (w.answer r).2
    exact ih _ (h.answer here (hnew.until hlater)) (hnew.since (w.answer_insertions_le r))

/-- Two parts leave an account buried when each does, the second one after the first. -/
theorem Buried.run_bind {a : Action α} {f : α → Action β} (ha : a.Asks (Request.Spares id))
    (h : Buried id w) (hnew : id.UnusedFrom w ((a >>= f).run w).2)
    (hf : ∀ x w', a.run w = (.ok x, w') → Buried id w' →
      id.UnusedFrom w' ((f x).run w').2 → Buried id ((f x).run w').2) :
    Buried id ((a >>= f).run w).2 := by
  have hfirst := Program.run_insertions_le (ExceptT.run a) w
  change w.insertions ≤ (a.run w).2.insertions at hfirst
  have hpart : id.UnusedFrom w (a.run w).2 → Buried id (a.run w).2 := Buried.run ha h
  rcases hrun : a.run w with ⟨e | x, w'⟩
  all_goals rw [hrun] at hfirst hpart
  · rw [run_bind_error _ hrun] at hnew ⊢
    exact hpart hnew
  · rw [run_bind_ok _ hrun] at hnew ⊢
    have hrest := Program.run_insertions_le (ExceptT.run (f x)) w'
    exact hf x w' hrun (hpart (hnew.until hrest)) (hnew.since hfirst)

/-! ## Operations -/

namespace Identity

theorem spares_register (config : Config) (r : Registration) (id : Uuid) :
    (register config r).Asks (Request.Spares id) :=
  (asks_register (C := fun _ => False) config r).mono (Request.spares_of_within fun _ hc => hc.elim)

theorem spares_login (config : Config) (c : Credentials) (id : Uuid) :
    (login config c).Asks (Request.Spares id) :=
  (asks_login (C := fun _ => False) config c).mono (Request.spares_of_within fun _ hc => hc.elim)

theorem spares_update (other : Uuid) (d : Details) (id : Uuid) :
    (update other d).Asks (Request.Spares id) :=
  (asks_update other d).mono (Request.spares_of_within fun _ hc => hc.spares _)

theorem spares_delete (other : Uuid) (id : Uuid) : (delete other).Asks (Request.Spares id) :=
  (asks_delete other).mono (Request.spares_of_within fun _ hc => hc.spares _)

/-- A look-up stores no copy of a buried account: there is no row to make it of. -/
theorem find_buried (config : Config) (other : Uuid) (h : Buried id w)
    (hnew : id.UnusedFrom w ((find config other).run w).2) :
    Buried id ((find config other).run w).2 := by
  have hcached : (Cache.find other).Asks (Request.Spares id) :=
    (Cache.asks_find (S := fun _ => False) other).mono
      (Request.spares_of_within fun c hc => by subst hc; trivial)
  have hlooked : (looked other).Asks (Request.Spares id) :=
    (asks_looked (C := fun _ => False) other).mono (Request.spares_of_within fun _ hc => hc.elim)
  rw [find_eq] at hnew ⊢
  refine Buried.run_bind hcached h hnew fun cached w₁ _ hw₁ hnew₁ => ?_
  cases cached with
  | some account => exact hw₁
  | none =>
    refine Buried.run_bind hlooked hw₁ hnew₁ fun account w₂ hrun hw₂ hnew₂ => ?_
    rcases looked_cases w₁ other with ⟨e, w', herror⟩ | ⟨row, w', hrow, hok⟩
    · rw [herror] at hrun
      cases hrun
    · rw [hok] at hrun
      cases hrun
      -- the row is found, so its copy goes under the key of another account
      have hne : row.profile.id ≠ id := by
        intro heq
        have hnone := hw₁.row
        rw [← heq, Store.Table.id_of_find? hrow, hrow] at hnone
        cases hnone
      refine Buried.run (Asks.bind ?_ fun stored => ?_) hw₂ hnew₂
      · refine (Cache.asks_store (S := fun _ => False) row.account.sanitized _).mono
          (Request.spares_of_within fun c hc => ?_)
        subst hc
        exact World.key_ne hne
      · dsimp only
        split
        · exact (asks_log trivial).bind fun _ => asks_pure _
        · exact asks_pure _

/-! ### Answers -/

theorem find_of_buried (config : Config) (h : Buried id w) :
    ∃ e, ((find config id).run w).1 = .error e := by
  rcases find_cases config id w with ⟨herror | ⟨entry, _, hlive, -⟩, -⟩ | ⟨row, hrow, -⟩
  · exact herror
  · rw [h.copy] at hlive
    cases hlive
  · rw [h.row] at hrow
    cases hrow

theorem update_of_buried (d : Details) (h : Buried id w) :
    ∃ e, ((update id d).run w).1 = .error e := by
  rcases update_cases w id d with ⟨herror, -⟩ | ⟨_, row, _, -, hrow, -⟩
  · exact herror
  · rw [h.row] at hrow
    cases hrow

theorem delete_of_buried (h : Buried id w) : ∃ e, ((delete id).run w).1 = .error e := by
  rcases delete_cases w id with ⟨herror, -⟩ | ⟨row, hrow, -⟩
  · exact herror
  · rw [h.row] at hrow
    cases hrow

/-- A deletion that is answered has taken away the row that there was. -/
theorem delete_removes {u : Unit} (hok : ((delete id).run w).1 = .ok u) :
    (∃ row, w.table.find? id = some row) ∧ ((delete id).run w).2.table.find? id = none := by
  rcases delete_cases w id with ⟨⟨e, herror⟩, -⟩ | ⟨row, hrow, -, htable⟩
  · rw [hok] at herror
    cases herror
  · rw [htable]
    exact ⟨⟨row, hrow⟩, Store.Table.find?_remove_self _ _⟩

theorem findByEmail_eq_ok {email : LooseText} {found : Option Account}
    (h : (Store.findByEmail email).run w = (.ok found, w')) :
    found = (w.table.findEmail? email.chars).map Store.Row.secret := by
  obtain ⟨row, w₁, hquery, hrest⟩ := run_bind_eq_ok h
  cases hrest
  have hlook : Store.lookUp email w.table = .ok row :=
    World.runStatement_eq_ok (s := .findByEmail email) (query_eq_ok hquery)
  rw [(Store.lookUp_eq_ok_iff.1 hlook).2]

/-- A session that a login gives is for the account of a row. -/
theorem login_row {config : Config} {c : Credentials} {s : Session}
    (h : ((login config c).run w).1 = .ok s) : ∃ row ∈ w.table, s.account = row.account := by
  rcases hrun : (login config c).run w with ⟨answer, w'⟩
  rw [hrun] at h
  subst h
  rw [login_eq] at hrun
  obtain ⟨s', w₁, hadmitted, hannounced⟩ := run_bind_eq_ok hrun
  cases hannounced
  obtain ⟨_, w₂, haccept, hfinding⟩ := run_bind_eq_ok (operation_run_eq_ok hadmitted)
  have hsame : w₂ = w := by
    rcases accept_run (prepare () c.violations) w with ⟨_, -, herror⟩ | ⟨_, -, hok⟩
    · rw [herror] at haccept
      cases haccept
    · rw [hok] at haccept
      cases haccept
      rfl
  subst hsame
  obtain ⟨found, w₃, hfound, hentering⟩ := run_bind_eq_ok hfinding
  have hrow := findByEmail_eq_ok hfound
  cases found with
  | none => cases hentering
  | some account =>
    obtain ⟨row, hemail, rfl⟩ := Option.map_eq_some_iff.1 hrow.symm
    obtain ⟨_, w₄, -, hissuing⟩ := run_bind_eq_ok hentering
    obtain ⟨token, w₅, -, hdone⟩ := run_bind_eq_ok hissuing
    cases hdone
    exact ⟨row, Store.Table.mem_of_findEmail? hemail, rfl⟩

/-- A session that a registration gives is for the account of its new row. -/
theorem register_row {config : Config} {r : Registration} {s : Session}
    (h : ((register config r).run w).1 = .ok s) :
    ∃ row ∈ ((register config r).run w).2.table, s.account = row.account := by
  rcases register_cases config r w with ⟨⟨e, herror⟩, -⟩ |
    ⟨prepared, hash, id, email, time, -, -, -, hsession, htable⟩
  · rw [h] at herror
    cases herror
  · rw [htable]
    refine ⟨_, List.mem_append_right _ (List.mem_singleton_self _), ?_⟩
    rw [h] at hsession
    unfold sessionFor at hsession
    split at hsession
    · cases hsession
      rfl
    · cases hsession

end Identity

/-! ## Calls -/

/-- A call is for an account, by its identifier. -/
def Step.IsFor (id : Uuid) : Step → Prop
  | .find other | .update other _ | .delete other => other = id
  | _ => False

theorem Step.run_buried {step : Step} (hstep : step.IsCall) (h : Buried id w)
    (hnew : id.UnusedFrom w (step.run setup w).2) : Buried id (step.run setup w).2 := by
  cases step with
  | register r =>
    rw [Step.run_register] at hnew ⊢
    dsimp only at hnew ⊢
    exact Buried.run (Identity.spares_register setup.identity r id) h hnew
  | login c =>
    rw [Step.run_login] at hnew ⊢
    dsimp only at hnew ⊢
    exact Buried.run (Identity.spares_login setup.identity c id) h hnew
  | update other d =>
    rw [Step.run_update] at hnew ⊢
    dsimp only at hnew ⊢
    exact Buried.run (Identity.spares_update other d id) h hnew
  | delete other =>
    rw [Step.run_delete] at hnew ⊢
    dsimp only at hnew ⊢
    exact Buried.run (Identity.spares_delete other id) h hnew
  | find other =>
    rw [Step.run_find] at hnew ⊢
    exact Identity.find_buried setup.identity other h hnew
  | _ => exact hstep.elim

/-- A call for a buried account fails. -/
theorem Step.error_of_buried {step : Step} (hfor : step.IsFor id) (h : Buried id w) :
    ∃ e, (step.run setup w).1 = .error e := by
  cases step with
  | find other =>
    obtain rfl : other = id := hfor
    obtain ⟨e, herror⟩ := Identity.find_of_buried setup.identity h
    exact ⟨e, by rw [Step.run_find, herror]; rfl⟩
  | update other d =>
    obtain rfl : other = id := hfor
    obtain ⟨e, herror⟩ := Identity.update_of_buried d h
    exact ⟨e, by rw [Step.run_update, herror]; rfl⟩
  | delete other =>
    obtain rfl : other = id := hfor
    obtain ⟨e, herror⟩ := Identity.delete_of_buried h
    exact ⟨e, by rw [Step.run_delete, herror]; rfl⟩
  | _ => exact hfor.elim

/-- A session is for the account of a row that there is after the call. -/
theorem Step.session_row {step : Step} {s : Session} (hstep : step.IsCall)
    (hs : (step.run setup w).1 = .ok (.session s)) :
    ∃ row ∈ (step.run setup w).2.table, s.account = row.account := by
  cases hstep.answers hs with
  | register r =>
    rw [Step.run_register] at hs ⊢
    dsimp only at hs ⊢
    obtain ⟨_, hok, hsession⟩ := map_eq_ok hs
    cases hsession
    exact Identity.register_row hok
  | login c =>
    rw [Step.table_login]
    rw [Step.run_login] at hs
    dsimp only at hs
    obtain ⟨_, hok, hsession⟩ := map_eq_ok hs
    cases hsession
    exact Identity.login_row hok

end Accounts
