import Accounts.Cache.Client
import Accounts.Cache.Codec
import Accounts.Cache.Key

/-!
# The cache of accounts

Copies of accounts without their passwords.  The cache is never the authority: what cannot be read
is not there, and what cannot be written or taken away is reported to the caller.
-/

namespace Accounts.Cache

open Accounts.Action

/-- The cached copy of an account. -/
def find (id : Uuid) : Action (Option Account) := do
  let text := (← get (key id)).getD ""
  if text.isEmpty then
    log (.cacheMiss id)
    return none
  match decode text with
  | some account => do
    log (.cacheHit id)
    return some account
  | none => do
    log (.cacheUnreadable id)
    return none

/-- Store a copy of an account for a number of seconds; without a connection there is nothing to
do. -/
def store (account : Account) (seconds : Int) : Action Bool := do
  let outcome ← setFor (key account.id) seconds (encode account)
  if outcome.isOk then log (.cacheSet account.id)
  return outcome.isOkOrDetached

/-- Take the copy of an account away; without a connection there is nothing to do. -/
def drop (id : Uuid) : Action Bool := do
  let outcome ← delete [key id]
  if outcome.isOk then log (.cacheInvalidated id)
  return outcome.isOkOrDetached

/-- End the life of the copy of an account; without a connection there is nothing to do. -/
def expireNow (id : Uuid) : Action Bool := do
  let outcome ← expire (key id) 0
  if outcome.isOk then log (.cacheExpired id)
  return outcome.isOkOrDetached

end Accounts.Cache
