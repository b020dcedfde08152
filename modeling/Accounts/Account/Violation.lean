import Accounts.Account.Normal
import Accounts.Email.Address
import Accounts.Number.Decimal

/-!
# Rules for account input

Each field has one rule, and the rule looks at that field alone.  All broken rules are reported,
in the order of the fields: email, password, the texts of the profile, postcode.

The rule for passwords counts bytes.  A broken text has none, and is not reported either: checking
it fails.
-/

namespace Accounts

open Number

/-- A field whose rule is broken, with a message for people. -/
structure Violation where
  field : String
  message : String
  deriving DecidableEq, Repr

/-! ## Limits -/

/-- The most characters of an email. -/
def maxEmailLength : Nat := 60

/-- The fewest characters of a password. -/
def minPasswordLength : Nat := 6

/-- The most bytes of a password. -/
def maxPasswordBytes : Nat := 72

/-! ## Rules -/

/-- The broken rule of an email. -/
def checkEmail (required : Bool) (email : Option LooseText) : Option Violation :=
  let e : LooseText := email.getD ""
  if e.chars = "" then if required then some ⟨"email", "Email is required"⟩ else none
  else if maxEmailLength < e.chars.length then
    some ⟨"email", "Email must be at most " ++ natText maxEmailLength ++ " characters"⟩
  else if e.isWhole && Email.isAddress e.chars then none
  else some ⟨"email", "Email is not a valid address"⟩

/-- The broken rule of a password.  Its bytes are counted when it has enough characters. -/
def checkPassword (password : Option LooseText) : Except EncodingFault (Option Violation) :=
  let p : LooseText := password.getD ""
  if p.chars = "" then .ok (some ⟨"password", "Password is required"⟩)
  else if p.chars.length < minPasswordLength then
    .ok (some ⟨"password",
      "Password must be at least " ++ natText minPasswordLength ++ " characters"⟩)
  else
    p.whole.map fun text =>
      if maxPasswordBytes < text.utf8ByteSize then
        some ⟨"password", "Password must be at most " ++ natText maxPasswordBytes ++ " bytes"⟩
      else none

/-- The broken rule of a text of the profile. -/
def checkText (field : ProfileText) (value : Option LooseText) : Option Violation :=
  if field.limit < (value.getD "").chars.length then
    some ⟨field.name, field.name ++ " must be at most " ++ natText field.limit ++ " characters"⟩
  else none

/-- The broken rule of a postcode. -/
def checkPostcode (postcode : Option Int) : Option Violation :=
  if postcode.getD 0 < 0 then some ⟨"postcode", "postcode must not be negative"⟩ else none

/-- The broken rules of the profile. -/
def Details.profileViolations (d : Details) : List Violation :=
  ProfileText.all.filterMap (fun field => checkText field (d.text field))
    ++ (checkPostcode d.postcode).toList

/-- The broken rules of a registration. -/
def Registration.violations (r : Registration) : Except EncodingFault (List Violation) :=
  (checkPassword r.password).map fun password =>
    (checkEmail true r.details.email).toList ++ password.toList ++ r.details.profileViolations

/-- The broken rules of a revision. -/
def Details.violations (d : Details) : List Violation :=
  (checkEmail false d.email).toList ++ d.profileViolations

/-- The broken rules of credentials, with the email in normal form. -/
def Credentials.violations (c : Credentials) : Except EncodingFault (List Violation) :=
  (checkPassword c.password).map fun password =>
    (checkEmail true (some (normalEmail c.email))).toList ++ password.toList

/-! ## Preparation -/

/-- Why input is not accepted. -/
inductive InputFault where
  /-- Rules are broken. -/
  | invalid (violations : List Violation)
  /-- The rules cannot be checked. -/
  | encoding (fault : EncodingFault)
  deriving DecidableEq, Repr

/-- The normal form of a value without broken rules, or what is wrong with it. -/
def prepare (normal : α) (violations : Except EncodingFault (List Violation)) :
    Except InputFault α :=
  match violations with
  | .ok [] => .ok normal
  | .ok violations => .error (.invalid violations)
  | .error fault => .error (.encoding fault)

/-- A registration in normal form that breaks no rule. -/
def Registration.prepare (r : Registration) : Except InputFault Registration :=
  Accounts.prepare r.normal r.normal.violations

/-- A revision in normal form that breaks no rule. -/
def Details.prepare (d : Details) : Except InputFault Details :=
  Accounts.prepare d.normal (.ok d.normal.violations)

end Accounts
