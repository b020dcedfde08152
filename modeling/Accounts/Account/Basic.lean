import Accounts.Calendar.DateTime
import Accounts.Text.Loose
import Accounts.Uuid.Basic

/-!
# Accounts

An account as it is stored, and what callers hand in: a registration, a revision of a profile, and
credentials.  The password of an account is a hash; it is present only where an account was
loaded to check a password.  Texts that callers hand in may be broken, those of accounts are not.
-/

namespace Accounts

open Calendar

/-- The texts of a profile that have a limit of their own. -/
inductive ProfileText where
  | firstName
  | lastName
  | role
  | about
  | phoneNumber
  | address
  | city
  | gender
  deriving DecidableEq, Repr

namespace ProfileText

/-- All texts of a profile, in their order. -/
def all : List ProfileText :=
  [firstName, lastName, role, about, phoneNumber, address, city, gender]

/-- The name of the field. -/
def name : ProfileText → String
  | firstName => "first_name"
  | lastName => "last_name"
  | role => "role"
  | about => "about"
  | phoneNumber => "phone_number"
  | address => "address"
  | city => "city"
  | gender => "gender"

/-- The greatest number of characters. -/
def limit : ProfileText → Nat
  | firstName => 32
  | lastName => 32
  | role => 10
  | about => 1024
  | phoneNumber => 20
  | address => 250
  | city => 24
  | gender => 10

end ProfileText

/-- What a caller says about an account: every part may be left out. -/
structure Details where
  firstName : Option LooseText := none
  lastName : Option LooseText := none
  email : Option LooseText := none
  role : Option LooseText := none
  about : Option LooseText := none
  phoneNumber : Option LooseText := none
  address : Option LooseText := none
  city : Option LooseText := none
  gender : Option LooseText := none
  postcode : Option Int := none
  birthday : Option Date := none
  deriving DecidableEq

/-- A text of the profile. -/
def Details.text (d : Details) : ProfileText → Option LooseText
  | .firstName => d.firstName
  | .lastName => d.lastName
  | .role => d.role
  | .about => d.about
  | .phoneNumber => d.phoneNumber
  | .address => d.address
  | .city => d.city
  | .gender => d.gender

/-- A request for a new account. -/
structure Registration where
  details : Details := {}
  password : Option LooseText := none
  deriving DecidableEq

/-- A request for a login. -/
structure Credentials where
  email : Option LooseText := none
  password : Option LooseText := none
  deriving DecidableEq

/-- An account without its password. -/
structure Profile where
  id : Uuid
  firstName : String
  lastName : String
  email : String
  role : String
  about : Option String
  phoneNumber : Option String
  address : Option String
  city : Option String
  gender : Option String
  postcode : Option Int
  birthday : Option Date
  createdAt : DateTime
  updatedAt : DateTime
  loginDate : DateTime
  deriving DecidableEq

/-- An account, with the hash of its password when that was loaded. -/
structure Account extends Profile where
  password : Option String
  deriving DecidableEq

/-- The account without its password. -/
def Account.sanitized (a : Account) : Account := { a with password := none }

/-- An account and a token for it, the outcome of a registration or login. -/
structure Session where
  account : Account
  token : String
  deriving DecidableEq

/-- What callers see of a session. -/
structure SessionView where
  profile : Profile
  token : String
  deriving DecidableEq

/-- What callers see of a session. -/
def Session.view (s : Session) : SessionView := ⟨s.account.toProfile, s.token⟩

/-! ## Lemmas -/

@[simp] theorem Account.sanitized_sanitized (a : Account) :
    a.sanitized.sanitized = a.sanitized := rfl

@[simp] theorem Account.toProfile_sanitized (a : Account) :
    a.sanitized.toProfile = a.toProfile := rfl

end Accounts
