import Accounts.Proofs.Cache.Drop
import Accounts.Proofs.World.Run

/-!
# What the operations of the cache report

Over a connection an operation of the cache does the work of its command and reports success, or does
nothing and reports failure.  So a copy that is reported to be taken away is gone.  Without
a connection nothing is done, and that is reported as success:

    attached  ->  carried = true, and the work is done  |  carried = false, and the keys are the same
    detached  ->  carried = true, and the keys are the same
-/

namespace Accounts

open Accounts.Action

variable {w : World} {id : Uuid}

namespace Cache

/-! ## Reports -/

/-- Without a connection nothing is done, and that is no failure. -/
theorem carried_of_detached (h : w.attached = false) (name : String) (c : Command) (e : Event) :
    (carried name c e).run w = (.ok true, w) := by
  have hsent : (request (.cache c)).run w = (.ok .detached, w) := by
    rw [run_request, show w.answer (.cache c) = (.detached, w) from World.runCommand_of_detached h]
  have hsend : (send name c).run w = (.ok .detached, w) := by
    unfold send
    rw [run_bind_ok _ hsent]
    rfl
  unfold carried
  rw [run_bind_ok _ hsend]
  rfl

/-- Over a connection the work of the command is done, or nothing is, and the report tells which. -/
theorem carried_cases (h : w.attached = true) (name : String) (c : Command) (e : Event) :
    ∃ faults events,
      ((∃ result, (c.run w.now w.keys).1 = .ok result) ∧ (carried name c e).run w =
        (.ok true, { w with keys := (c.run w.now w.keys).2, faults := faults, events := events })) ∨
      (carried name c e).run w = (.ok false, { w with faults := faults, events := events }) := by
  have hsent : (request (.cache c)).run w = (.ok (w.runCommand c).1, (w.runCommand c).2) := rfl
  have hfailed {fault : Fault} {w' : World} (hc : w.runCommand c = (.failed fault, w')) :
      (carried name c e).run w =
        (.ok false, { w' with events := w'.events ++ [.commandFailed name fault] }) := by
    rw [hc] at hsent
    unfold carried send
    rw [run_bind, run_bind_ok _ hsent]
    rfl
  refine ⟨(World.Faults.next w.faults c).2, ?_⟩
  rcases World.runCommand_cases (c := c) h with ⟨fault, hc⟩ | ⟨fault, herror, hc⟩ |
    ⟨result, hresult, hc⟩
  · exact ⟨_, .inr (hfailed hc)⟩
  · rw [Command.run_error herror] at hc
    exact ⟨_, .inr (hfailed hc)⟩
  · rw [hc] at hsent
    refine ⟨w.events ++ [e], .inl ⟨⟨result, hresult⟩, ?_⟩⟩
    unfold carried send
    rw [run_bind, run_bind_ok _ hsent]
    rfl

/-! ## Taking a copy away -/

/-- Over a connection an action takes the copy of an account away or leaves the keys as they are, and
reports which. -/
def Takes (id : Uuid) (a : Action Bool) : Prop :=
  ∀ w : World, w.attached = true → ∃ flag keys faults events,
    a.run w = (.ok flag, { w with keys := keys, faults := faults, events := events }) ∧
    (flag = true ∧ Keyspace.live? keys w.now (key id) = none ∨ flag = false ∧ keys = w.keys)

theorem takes_carried {c : Command} (hc : Drops id c) (name : String) (e : Event) :
    Takes id (carried name c e) := by
  intro w h
  obtain ⟨faults, events, ⟨⟨result, hresult⟩, hrun⟩ | hrun⟩ := carried_cases h name c e
  · refine ⟨true, _, faults, events, hrun, .inl ⟨rfl, ?_⟩⟩
    rcases hc with rfl | rfl
    · exact Keyspace.live?_erase_self _ _ _
    · exact live?_expire_zero hresult
  · exact ⟨false, w.keys, faults, events, hrun, .inr ⟨rfl, rfl⟩⟩

theorem takes_drop (id : Uuid) : Takes id (drop id) := takes_carried (.inl rfl) _ _

theorem takes_expireNow (id : Uuid) : Takes id (expireNow id) := takes_carried (.inr rfl) _ _

end Cache

namespace Identity

open Cache (key Takes)

theorem takes_dropFrom (name : String) (id : Uuid) (left attempt : Nat) :
    Takes id (dropFrom name id left attempt) := by
  induction left generalizing attempt with
  | zero => exact fun w _ => ⟨false, w.keys, w.faults, w.events, rfl, .inr ⟨rfl, rfl⟩⟩
  | succ left ih =>
    intro w h
    obtain ⟨flag, keys, faults, events, hrun, hkeys⟩ := Cache.takes_drop id w h
    unfold dropFrom
    rw [run_bind_ok _ hrun]
    rcases hkeys with ⟨rfl, hdead⟩ | ⟨rfl, rfl⟩
    · exact ⟨true, keys, faults, events, rfl, .inl ⟨rfl, hdead⟩⟩
    · exact ih (attempt + 1) { w with faults := faults, events := events ++ [.dropFailed name id attempt] } h

/-- After a change over a connection the copy is gone, or it is logged that it could not be taken
away. -/
theorem invalidate_cases (h : w.attached = true) (name : String) (id : Uuid) :
    ∃ keys faults events, (invalidate name id).run w =
        (.ok (), { w with keys := keys, faults := faults, events := events }) ∧
      (Cache.Keyspace.live? keys w.now (key id) = none ∨ .invalidationFailed name id ∈ events) := by
  obtain ⟨flag, keys, faults, events, hrun, hkeys⟩ := takes_dropFrom name id dropAttempts 1 w h
  unfold invalidate
  rw [run_bind_ok _ hrun]
  rcases hkeys with ⟨rfl, hdead⟩ | ⟨rfl, rfl⟩
  · exact ⟨keys, faults, events, rfl, .inl hdead⟩
  · obtain ⟨flag, keys, faults', events', hrun', hkeys'⟩ :=
      Cache.takes_expireNow id { w with faults := faults, events := events } h
    show ∃ keys faults events, (Action.run (Cache.expireNow id >>= _) _) = _ ∧ _
    rw [run_bind_ok _ hrun']
    rcases hkeys' with ⟨rfl, hdead⟩ | ⟨rfl, rfl⟩
    · exact ⟨keys, faults', events', rfl, .inl hdead⟩
    · exact ⟨w.keys, faults', events' ++ [.invalidationFailed name id], rfl, .inr (by simp)⟩

/-- Without a connection a change takes no copy away and logs nothing. -/
theorem invalidate_of_detached (h : w.attached = false) (name : String) (id : Uuid) :
    (invalidate name id).run w = (.ok (), w) := by
  have hdropped : (dropFrom name id dropAttempts 1).run w = (.ok true, w) := by
    unfold dropAttempts dropFrom
    rw [Cache.drop_eq, run_bind_ok _ (Cache.carried_of_detached h _ _ _)]
    rfl
  unfold invalidate
  rw [run_bind_ok _ hdropped]
  rfl

end Identity

/-- An account to try runs with. -/
def sampleAccount : Account where
  id := World.insertionId 1
  firstName := "Ann"
  lastName := ""
  email := "ann@b.co"
  role := "user"
  about := none
  phoneNumber := none
  address := none
  city := some "Graz"
  gender := none
  postcode := some 8010
  birthday := none
  createdAt := ⟨⟨2024, 2, 29, by decide, by decide, by decide⟩, .midnight, none⟩
  updatedAt := ⟨⟨2024, 2, 29, by decide, by decide, by decide⟩, .midnight, none⟩
  loginDate := ⟨⟨2024, 2, 29, by decide, by decide, by decide⟩, .midnight, none⟩
  password := none

end Accounts
