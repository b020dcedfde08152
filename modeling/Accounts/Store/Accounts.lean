import Accounts.Service.Program

/-!
# The store of accounts

Every action runs one statement and turns its result into an account or a failure.  The hash of a
password is in the result only where an account is created or looked up by its email.
-/

namespace Accounts.Store

open Accounts.Action

/-- Create an account. -/
def create (r : Registration) (hash : String) : Action Account := do
  match ← statement (.insert (Draft.ofRegistration r hash)) with
  | .ok row => do
    let row : Row := row
    log (.accountCreated row.profile.id)
    return row.secret
  | .error .conflict => do
    log .createConflict
    fail .emailTaken
  | .error fault => throw (.store fault)

/-- Make the changes of a revision. -/
def update (id : Uuid) (d : Details) : Action Account := do
  match ← statement (.revise id d) with
  | .ok (some row) => do
    let row : Row := row
    log (.accountUpdated id d.changedFields)
    return row.account
  | .ok none => fail .unknownAccount
  | .error .conflict => do
    log (.updateConflict id)
    fail .emailTaken
  | .error fault => throw (.store fault)

/-- Delete an account. -/
def delete (id : Uuid) : Action Unit := do
  let found : Bool ← query (.remove id)
  if found then log (.rowDeleted id) else fail .unknownAccount

/-- The account of an identifier, without the hash. -/
def find (id : Uuid) : Action Account := do
  let found : Option Row ← query (.findById id)
  match found with
  | some row => return row.account
  | none => fail .unknownAccount

/-- The account with an email, with the hash. -/
def findByEmail (email : LooseText) : Action (Option Account) := do
  let found : Option Row ← query (.findByEmail email)
  return found.map Row.secret

end Accounts.Store
