import Accounts.Account.Violation

/-!
# Failures of the service

A failure has a cause from a closed set, a message that is safe to show to callers, and the name
of the operation that it escaped from.
-/

namespace Accounts

/-- Why an operation of the service fails. -/
inductive Cause where
  | general
  | invalidInput (violations : List Violation)
  | emailTaken
  | badCredentials
  | unknownAccount
  | internal
  deriving DecidableEq

/-- The classes of failures that callers are told apart. -/
inductive Cause.Kind where
  | validation
  | conflict
  | unauthorized
  | notFound
  | internal
  deriving DecidableEq

/-- The name of a kind. -/
def Cause.Kind.name : Kind → String
  | validation => "validation"
  | conflict => "conflict"
  | unauthorized => "unauthorized"
  | notFound => "not_found"
  | internal => "internal"

/-- The kind of a cause. -/
def Cause.kind : Cause → Kind
  | general => .internal
  | invalidInput _ => .validation
  | emailTaken => .conflict
  | badCredentials => .unauthorized
  | unknownAccount => .notFound
  | internal => .internal

/-- The message of a cause. -/
def Cause.message : Cause → String
  | general => "Internal server error"
  | invalidInput _ => "Invalid input"
  | emailTaken => "User with given email already exists"
  | badCredentials => "Unauthorized"
  | unknownAccount => "Account not found"
  | internal => "Internal server error"

/-- The broken rules behind a cause. -/
def Cause.violations? : Cause → Option (List Violation)
  | invalidInput vs => some vs
  | _ => none

/-- A failure of the service. -/
structure Failure where
  cause : Cause
  custom : Option String := none
  operation : Option String := none
  deriving DecidableEq

namespace Failure

/-- The message that callers may see: the one given, unless it is empty, or that of the cause. -/
def message (f : Failure) : String :=
  orElse (f.custom.getD "") f.cause.message

/-- The message with the operation in front, for logs. -/
def text (f : Failure) : String :=
  match f.operation.getD "" with
  | "" => f.message
  | operation => operation ++ ": " ++ f.message

/-- The failure as it leaves an operation: it is tagged unless it has a tag. -/
def tag (operation : String) (f : Failure) : Failure :=
  { f with operation := some (f.operation.getD operation) }

end Failure

end Accounts
