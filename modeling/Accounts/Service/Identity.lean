import Accounts.Cache.Accounts
import Accounts.Password.Hash
import Accounts.Store.Accounts

/-!
# The identity service

Registration, login, and reading and changing accounts through the cache.  The store is the
authority.  A change is made in the store first; then the cached copy is taken away, and never
replaced, so that the next read stores a fresh one.

    read:   cache -> store -> cache
    change: store -> no copy in the cache
-/

namespace Accounts.Identity

open Accounts.Action

/-- What the service needs to know. -/
structure Config where
  secret : String
  tokenMinutes : Int
  cacheSeconds : Int

/-! ## Operations -/

/-- Run an action as an operation of the service: failures are tagged with its name, and faults
of the database become internal failures. -/
def operation (name : String) (a : Action α) : Action α :=
  tryCatch a fun
    | .failure f => throw (.failure (f.tag name))
    | .store fault =>
      if fault.isReported then do
        log (.storeFailed name fault)
        throw (.failure { cause := .internal, operation := some name })
      else throw (.store fault)
    | e => throw e

/-- A prepared value, or a failure with the rules that were broken.  That they cannot be checked is
no failure of the service. -/
def accept (prepared : Except InputFault α) : Action α :=
  match prepared with
  | .ok a => return a
  | .error (.invalid violations) => fail (.invalidInput violations)
  | .error (.encoding fault) => throw (.encoding fault)

/-- A token for an account. -/
def issueToken (config : Config) (name : String) (account : Account) : Action String := do
  let now ← request .clock
  match Token.issue now config.secret config.tokenMinutes account.id account.email with
  | .ok token => return token
  | .error (.unusableKey fault) => do
    log (.tokenFailed name (.unusableKey fault))
    throw (.failure { cause := .internal, operation := some name })
  | .error fault => throw (.token fault)

/-- How often the cached copy is deleted before its life is ended instead. -/
def dropAttempts : Nat := 2

/-- Try to take the cached copy away, from an attempt on. -/
def dropFrom (name : String) (id : Uuid) : Nat → Nat → Action Bool
  | 0, _ => return false
  | left + 1, attempt => do
    if ← Cache.drop id then return true
    log (.dropFailed name id attempt)
    dropFrom name id left (attempt + 1)

/-- Take the cached copy of an account away after a change.  The change is not undone when that
fails. -/
def invalidate (name : String) (id : Uuid) : Action Unit := do
  if ← dropFrom name id dropAttempts 1 then return
  if ← Cache.expireNow id then return
  log (.invalidationFailed name id)

/-- The account with an email, when a look-up before a registration finds it.  A database that
reports a fault does not stop the registration. -/
def lookAhead (name : String) (email : LooseText) : Action (Option Account) :=
  tryCatch (Store.findByEmail email) fun
    | .store fault =>
      if fault.isReported then do
        log (.lookupSkipped name fault)
        return none
      else throw (.store fault)
    | e => throw e

/-- Fail when an email that is not blank is known to be taken. -/
def refuseTaken (name : String) (email : LooseText) : Action Unit := do
  if email.chars.isEmpty then return
  if (← lookAhead name email).isSome then fail .emailTaken

/-- The hash of a password under a fresh salt. -/
def hashPassword (password : LooseText) : Action String := do
  let salt ← request .salt
  match Password.hashLoose? salt password with
  | some hash => return hash
  | none => fail .internal

/-- Register an account and issue a token for it. -/
def register (config : Config) (r : Registration) : Action Session := do
  let name := "identity.register"
  let session ← operation name do
    refuseTaken name (normalEmail r.details.email)
    let prepared ← accept r.prepare
    let hash ← hashPassword (prepared.password.getD "")
    let account ← Store.create prepared hash
    let token ← issueToken config name account.sanitized
    return Session.mk account.sanitized token
  log (.accountRegistered session.account.id)
  return session

/-- Check a password against the hash of an account. -/
def checkPassword (account : Account) (password : LooseText) : Action Unit := do
  match Password.verifyLoose account.password password with
  | .accepted => return
  | .refused => fail .badCredentials
  | .unusable => do
    log .passwordUnusable
    fail .badCredentials

/-- Check credentials and issue a token.  An unknown email and a wrong password fail alike. -/
def login (config : Config) (c : Credentials) : Action Session := do
  let name := "identity.login"
  let session ← operation name do
    accept (prepare () c.violations)
    match ← Store.findByEmail (normalEmail c.email) with
    | none => fail .badCredentials
    | some account => do
      checkPassword account (c.password.getD "")
      let token ← issueToken config name account.sanitized
      return Session.mk account.sanitized token
  log (.accountLogin session.account.id)
  return session

/-- Change an account. -/
def update (id : Uuid) (d : Details) : Action Account := do
  let name := "identity.update"
  let account ← operation name do
    let prepared ← accept d.prepare
    let account ← Store.update id prepared
    return account.sanitized
  invalidate name id
  return account

/-- Delete an account. -/
def delete (id : Uuid) : Action Unit := do
  let name := "identity.delete"
  operation name (Store.delete id)
  invalidate name id
  log (.accountDeleted id)

/-- The account of an identifier, from the cache or else from the store.  A copy that was read
from the store is cached; when that fails, it is only logged. -/
def find (config : Config) (id : Uuid) : Action Account := do
  let name := "identity.get_by_id"
  match ← Cache.find id with
  | some account => return account
  | none => do
    let account ← operation name (Store.find id)
    let account := account.sanitized
    if !(← Cache.store account config.cacheSeconds) then log (.populateFailed name id)
    return account

end Accounts.Identity
