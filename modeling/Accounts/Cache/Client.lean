import Accounts.Service.Program

/-!
# The connection to the cache

Commands never fail the caller: reading answers nothing and writing answers `false` when there is
no connection or the command fails, and failures are logged.
-/

namespace Accounts.Cache

open Accounts.Action

/-- The outcome of a command; a failure is logged under a name. -/
def send (name : String) (c : Command) : Action (Outcome c.Result) := do
  match ← request (.cache c) with
  | .failed fault => do
    log (.commandFailed name fault)
    return .failed fault
  | outcome => return outcome

/-- The command was carried out. -/
def Outcome.isOk : Outcome α → Bool
  | ok _ => true
  | _ => false

/-- The command was carried out, or there is no connection to send it over. -/
def Outcome.isOkOrDetached : Outcome α → Bool
  | failed _ => false
  | _ => true

/-- The text under a key, if it can be read. -/
def get (key : String) : Action (Option String) := do
  match ← send "GET" (.get key) with
  | .ok value => return value
  | _ => return none

/-- Put a text under a key for a number of seconds. -/
def setFor (key : String) (seconds : Int) (value : String) : Action (Outcome Unit) :=
  send "SETEX" (.setFor key seconds value)

/-- Take keys away. -/
def delete (keys : List String) : Action (Outcome Unit) := send "DELETE" (.delete keys)

/-- Give a key a number of seconds to live. -/
def expire (key : String) (seconds : Int) : Action (Outcome Unit) :=
  send "EXPIRE" (.expire key seconds)

/-- The store of keys answers. -/
def ping : Action Bool := do
  return (← request (.cache .ping)).isOk

/-- Take up the connection, if the cache is enabled, and give it up again when the store of keys
does not answer. -/
def connect (enabled : Bool) : Action Unit := do
  if !enabled then log .cacheDisabled
  else
    let _ ← request (.connection true)
    match ← request (.cache .ping) with
    | .failed fault => do
      log (.cacheUnreachable fault)
      let _ ← request (.connection false)
    | _ => log .cacheConnected

/-- Give up the connection. -/
def close : Action Unit := do
  let wasAttached : Bool ← request (.connection false)
  if wasAttached then log .cacheClosed

end Accounts.Cache
