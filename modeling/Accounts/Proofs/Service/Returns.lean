import Accounts.Proofs.Service.Requests
import Accounts.Proofs.World.Answer

/-!
# Parts that never fail

Commands to the cache and events are sent without failing their caller.  So a change is not undone
when its copy cannot be taken away:

    (invalidate name id).run w = (.ok (), _)
-/

namespace Accounts

open Accounts.Action

variable {α β : Type}

/-- An action ends with a value in every world. -/
def Action.Returns (a : Action α) : Prop := ∀ w, ∃ x w', a.run w = (.ok x, w')

theorem Action.returns_pure (a : α) : (pure a : Action α).Returns := fun w => ⟨a, w, rfl⟩

theorem Action.returns_log (e : Event) : (log e).Returns := fun w => ⟨(), _, run_log e w⟩

theorem Action.Returns.bind {a : Action α} {f : α → Action β} (ha : a.Returns)
    (hf : ∀ x, (f x).Returns) : (a >>= f).Returns := by
  intro w
  obtain ⟨x, w₁, h₁⟩ := ha w
  obtain ⟨y, w₂, h₂⟩ := hf x w₁
  exact ⟨y, w₂, (run_bind_ok f h₁).trans h₂⟩

/-- The text that can be read under a key: without a connection none, and none when the command meets a
fault. -/
def World.read? (w : World) (name : String) : Option String :=
  if w.attached = true ∧ w.faults.get.head?.join = none then
    (w.keys.live? w.now name).map (·.value)
  else none

namespace Cache

/-- A command is sent without failing its caller, and its outcome is handed on. -/
theorem send_run (name : String) (c : Command) (w : World) :
    ∃ w', (send name c).run w = (.ok (w.runCommand c).1, w') := by
  have hsent : (request (.cache c)).run w = (.ok (w.runCommand c).1, (w.runCommand c).2) := rfl
  unfold send
  rw [run_bind_ok _ hsent]
  rcases (w.runCommand c).1 with _ | fault | result
  · exact ⟨_, rfl⟩
  · exact ⟨_, rfl⟩
  · exact ⟨_, rfl⟩

theorem returns_send (name : String) (c : Command) : (send name c).Returns := fun w =>
  let ⟨w', h⟩ := send_run name c w
  ⟨_, w', h⟩

/-- Reading a key gives what is alive under it, when it can be read. -/
theorem get_read (name : String) (w : World) :
    ∃ w', (get name).run w = (.ok (w.read? name), w') := by
  obtain ⟨w₁, h₁⟩ := send_run "GET" (.get name) w
  unfold get
  rw [run_bind_ok _ h₁]
  cases hattached : w.attached with
  | false =>
    rw [World.runCommand_of_detached hattached, World.read?, if_neg (by simp [hattached])]
    exact ⟨w₁, rfl⟩
  | true =>
    unfold World.runCommand World.read?
    rw [if_neg (by simp [hattached])]
    cases hfault : w.faults.get.head?.join with
    | none =>
      rw [show World.Faults.next w.faults (.get name) = (none, _) from congrArg (·, _) hfault,
        if_pos ⟨hattached, rfl⟩]
      exact ⟨w₁, rfl⟩
    | some fault =>
      rw [show World.Faults.next w.faults (.get name) = (some fault, _) from congrArg (·, _) hfault,
        if_neg (by simp)]
      exact ⟨w₁, rfl⟩

theorem decode_empty : decode "" = none := rfl

/-- Looking a copy up gives the account that the text under its key is read as. -/
theorem find_read (id : Uuid) (w : World) :
    ∃ w', (find id).run w = (.ok ((w.read? (key id)).bind decode), w') := by
  obtain ⟨w₁, h₁⟩ := get_read (key id) w
  unfold find
  rw [run_bind_ok _ h₁]
  rcases w.read? (key id) with _ | text
  · exact ⟨_, rfl⟩
  dsimp only [Option.getD_some, Option.bind_some]
  split
  · rename_i hempty
    rw [String.isEmpty_iff.1 hempty, decode_empty]
    exact ⟨_, rfl⟩
  · split
    · rename_i account hdecode
      rw [hdecode]
      exact ⟨_, rfl⟩
    · rename_i hdecode
      rw [hdecode]
      exact ⟨_, rfl⟩

/-- Looking a copy up gives nothing, or the account that what is alive under its key is read as. -/
theorem find_live (id : Uuid) (w : World) : ∃ cached w', (find id).run w = (.ok cached, w') ∧
    ∀ account, cached = some account →
      ∃ e, w.keys.live? w.now (key id) = some e ∧ decode e.value = some account := by
  obtain ⟨w', hrun⟩ := find_read id w
  refine ⟨_, w', hrun, fun account haccount => ?_⟩
  obtain ⟨text, htext, hdecode⟩ := Option.bind_eq_some_iff.1 haccount
  unfold World.read? at htext
  split at htext
  · obtain ⟨e, he, rfl⟩ := Option.map_eq_some_iff.1 htext
    exact ⟨e, he, hdecode⟩
  · cases htext

/-- Looking a copy up never fails, whatever is kept under its key. -/
theorem returns_find (id : Uuid) : (find id).Returns := fun w =>
  let ⟨cached, w', h, _⟩ := find_live id w
  ⟨cached, w', h⟩

theorem returns_carried (name : String) (c : Command) (e : Event) : (carried name c e).Returns := by
  refine (returns_send _ _).bind fun outcome => ?_
  dsimp only
  split
  · exact (returns_log _).bind fun _ => returns_pure _
  · exact returns_pure _

theorem returns_store (account : Account) (seconds : Int) : (store account seconds).Returns :=
  returns_carried _ _ _

theorem returns_drop (id : Uuid) : (drop id).Returns := returns_carried _ _ _

theorem returns_expireNow (id : Uuid) : (expireNow id).Returns := returns_carried _ _ _

end Cache

namespace Identity

theorem returns_dropFrom (name : String) (id : Uuid) (left attempt : Nat) :
    (dropFrom name id left attempt).Returns := by
  induction left generalizing attempt with
  | zero => exact returns_pure _
  | succ left ih =>
    refine (Cache.returns_drop id).bind fun dropped => ?_
    split
    · exact returns_pure _
    · exact (returns_log _).bind fun _ => ih _

/-- Taking the copy away does not fail the change that it follows. -/
theorem returns_invalidate (name : String) (id : Uuid) : (invalidate name id).Returns := by
  refine (returns_dropFrom name id _ _).bind fun dropped => ?_
  split
  · exact returns_pure _
  · refine (Cache.returns_expireNow id).bind fun expired => ?_
    split
    · exact returns_pure _
    · exact returns_log _

end Identity

end Accounts
