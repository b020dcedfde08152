import Accounts.Proofs.Service.Requests
import Accounts.Proofs.World.Run

/-!
# What the steps of a run ask for

Every step has a bound on its requests that holds whatever the world answers: the statements that it
may run and the commands that it may send.  What all of these keep, the step keeps:

    step.action? setup = some a  →  a.Asks (step.MayAsk setup)
-/

namespace Accounts

open Accounts.Action
open Accounts.Request (Within)
open Cache (key)

/-- Statements of one class, and no commands. -/
abbrev Request.Runs (S : Store.Statement → Prop) : Request → Prop := Within S fun _ => False

/-- Commands of one class, and no statements. -/
abbrev Request.Sends (C : Cache.Command → Prop) : Request → Prop := Within (fun _ => False) C

/-- The requests by which a connection is given up. -/
def Cache.CloseRequest (r : Request) : Prop := r = .connection false ∨ ∃ e, r = .log e

/-- The requests that a step may make; over HTTP it may make any. -/
def Step.MayAsk (setup : Setup) : Step → Request → Prop
  | .register r => Request.Runs (Identity.RegisterStatement r)
  | .login c => Request.Runs (· = .findByEmail (normalEmail c.email))
  | .update id _ => Within (Identity.UpdateStatement id) (Cache.Drops id)
  | .delete id => Within (· = .remove id) (Cache.Drops id)
  | .find id => Within (· = .findById id) (Identity.FindCommand id setup.identity.cacheSeconds)
  | .storeCreate r hash => Request.Runs (· = .insert (Store.Draft.ofRegistration r hash))
  | .storeUpdate id d => Request.Runs (· = .revise id d)
  | .storeFind id => Request.Runs (· = .findById id)
  | .storeDelete id => Request.Runs (· = .remove id)
  | .storeFindByEmail email => Request.Runs (· = .findByEmail email)
  | .cacheFind id => Request.Sends (· = .get (key id))
  | .cacheStore account seconds => Request.Sends
      (· = .setFor (key account.id) (seconds.getD setup.identity.cacheSeconds) (Cache.encode account))
  | .cacheDrop id | .cacheExpire id => Request.Sends (Cache.Drops id)
  | .get name => Request.Sends (· = .get name)
  | .setFor name seconds value => Request.Sends (· = .setFor name seconds value)
  | .deleteKeys names => Request.Sends (· = .delete names)
  | .expire name seconds => Request.Sends (· = .expire name seconds)
  | .ping => Request.Sends (· = .ping)
  | .connect => Cache.ConnectRequest
  | .close => Cache.CloseRequest
  | .attach => (· = .connection true)
  | .http _ => fun _ => True
  | .advance _ | .setSalt _ | .isConnected | .peek => fun _ => False

theorem Program.asks_any (p : Program α) : p.Asks fun _ => True := by
  induction p with
  | done a => exact .done a
  | ask r next ih => exact .ask trivial ih

/-- A step asks for no more than it may. -/
theorem Step.asks {setup : Setup} {step : Step} {a : Action Answer}
    (ha : step.action? setup = some a) : a.Asks (step.MayAsk setup) := by
  have hasks {β : Type} {b : Action β} {f : β → Answer}
      (hb : step.action? setup = some (b >>= fun x => pure (f x)))
      (hbound : b.Asks (step.MayAsk setup)) : a.Asks (step.MayAsk setup) := by
    rw [ha] at hb
    cases hb
    exact hbound.bind fun _ => asks_pure _
  cases step with
  | register r => exact hasks rfl (Identity.asks_register setup.identity r)
  | login c => exact hasks rfl (Identity.asks_login setup.identity c)
  | update id d => exact hasks rfl (Identity.asks_update id d)
  | delete id => exact hasks rfl (Identity.asks_delete id)
  | find id => exact hasks rfl (Identity.asks_find setup.identity id)
  | storeCreate r hash => exact hasks rfl (Store.asks_create r hash)
  | storeUpdate id d => exact hasks rfl (Store.asks_update id d)
  | storeFind id => exact hasks rfl (Store.asks_find id)
  | storeDelete id => exact hasks rfl (Store.asks_delete id)
  | storeFindByEmail email => exact hasks rfl (Store.asks_findByEmail email)
  | cacheFind id => exact hasks rfl (Cache.asks_find id)
  | cacheStore account seconds => exact hasks rfl (Cache.asks_store account _)
  | cacheDrop id => exact hasks rfl (Cache.asks_drop id)
  | cacheExpire id => exact hasks rfl (Cache.asks_expireNow id)
  | get name => exact hasks rfl (Cache.asks_get name)
  | setFor | deleteKeys | expire => exact hasks rfl (Cache.asks_send rfl)
  | ping =>
    exact hasks rfl (Asks.bind (asks_request (P := Request.Sends (· = .ping)) (r := .cache .ping) rfl)
      fun _ => asks_pure _)
  | connect => exact hasks rfl (Cache.asks_connect setup.cacheEnabled)
  | close => exact hasks rfl (Cache.asks_close (fun e => .inr ⟨e, rfl⟩) (.inl rfl))
  | attach => exact hasks rfl (asks_request rfl)
  | http r => exact Program.asks_any _
  | advance | setSalt | isConnected | peek => cases ha

/-- A step that is an action keeps what every request keeps that it may make. -/
theorem Step.run_keeps_of_asks {I : World → Prop} {setup : Setup} {step : Step} {w : World}
    {a : Action Answer} (ha : step.action? setup = some a)
    (request : ∀ r w, step.MayAsk setup r → I w → I (w.answer r).2) (hw : I w) :
    I (step.run setup w).2 := by
  rw [Step.run_action ha]
  exact Program.Asks.run_keeps (Step.asks ha) request hw

end Accounts
