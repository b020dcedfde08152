import Accounts.Http.Api
import Accounts.World.Basic

/-!
# Steps of a run

What may happen to a world from outside: requests over HTTP, operations of the service, of the
store and of the cache, commands to the store of keys, and the passing of time.  Every step has its own faults.
-/

namespace Accounts

open Calendar

/-- One step of a run. -/
inductive Step where
  | advance (span : Instant)
  | setSalt (salt : String)
  | register (r : Registration)
  | login (c : Credentials)
  | update (id : Uuid) (d : Details)
  | delete (id : Uuid)
  | find (id : Uuid)
  | storeCreate (r : Registration) (hash : String)
  | storeUpdate (id : Uuid) (d : Details)
  | storeFind (id : Uuid)
  | storeDelete (id : Uuid)
  | storeFindByEmail (email : LooseText)
  | cacheFind (id : Uuid)
  | cacheStore (account : Account) (seconds : Option Int)
  | cacheDrop (id : Uuid)
  | cacheExpire (id : Uuid)
  | get (key : String)
  | setFor (key : String) (seconds : Int) (value : String)
  | deleteKeys (keys : List String)
  | expire (key : String) (seconds : Int)
  | ping
  | isConnected
  | connect
  | close
  | attach
  | peek
  | http (r : Http.Request)

/-- What a step answers. -/
inductive Answer where
  | nothing
  | clock (now : Instant)
  | flag (b : Bool)
  | text (value : Option String)
  | account (account : Option Account)
  | session (session : Session)
  | entries (entries : Cache.Keyspace)
  | response (response : Http.Response)

/-- What the steps need to know. -/
structure Setup where
  site : Http.Site
  cacheEnabled : Bool

/-- What the service needs to know. -/
abbrev Setup.identity (s : Setup) : Identity.Config := s.site.identity

/-- The step as an action, where it is one. -/
def Step.action? (setup : Setup) : Step → Option (Action Answer)
  | register r => some do return .session (← Identity.register setup.identity r)
  | login c => some do return .session (← Identity.login setup.identity c)
  | update id d => some do return .account (some (← Identity.update id d))
  | delete id => some do
    Identity.delete id
    return .nothing
  | find id => some do return .account (some (← Identity.find setup.identity id))
  | storeCreate r hash => some do return .account (some (← Store.create r hash))
  | storeUpdate id d => some do return .account (some (← Store.update id d))
  | storeFind id => some do return .account (some (← Store.find id))
  | storeDelete id => some do
    Store.delete id
    return .nothing
  | storeFindByEmail email => some do return .account (← Store.findByEmail email)
  | cacheFind id => some do return .account (← Cache.find id)
  | cacheStore account seconds => some do
    return .flag (← Cache.store account (seconds.getD setup.identity.cacheSeconds))
  | cacheDrop id => some do return .flag (← Cache.drop id)
  | cacheExpire id => some do return .flag (← Cache.expireNow id)
  | get key => some do return .text (← Cache.get key)
  | setFor key seconds value => some do
    return .flag (← Cache.setFor key seconds value).isOk
  | deleteKeys keys => some do return .flag (← Cache.delete keys).isOk
  | expire key seconds => some do return .flag (← Cache.expire key seconds).isOk
  | ping => some do return .flag (← Cache.ping)
  | connect => some do
    Cache.connect setup.cacheEnabled
    return .nothing
  | close => some do
    Cache.close
    return .nothing
  | attach => some do
    let _ ← Action.request (.connection true)
    return .nothing
  | http r => some do return .response (← ExceptT.lift (Http.serve setup.site r))
  | advance _ | setSalt _ | isConnected | peek => none

/-- Make a step in a world. -/
def Step.run (setup : Setup) (step : Step) (w : World) : Except Error Answer × World :=
  match step.action? setup, step with
  | some a, _ => a.run w
  | none, advance span => (.ok (.clock (w.now + span)), { w with now := w.now + span })
  | none, setSalt salt => (.ok .nothing, { w with salt := salt })
  | none, isConnected => (.ok (.flag w.attached), w)
  | none, _ => (.ok (.entries (w.keys.liveEntries w.now)), w)

/-- Make a step that meets faults of its own, and give the events that it logs. -/
def Step.runWith (setup : Setup) (faults : Faults) (step : Step) (w : World) :
    Except Error Answer × List Event × World :=
  let (answer, w') := step.run setup { w with faults := faults, events := [] }
  (answer, w'.events, { w' with faults := {}, events := [] })

end Accounts
