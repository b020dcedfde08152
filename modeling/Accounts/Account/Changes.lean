import Accounts.Account.Writer

/-!
# Changes of a profile

A revision changes the fields that it gives a value.  Nothing, an empty text and the postcode zero
mean that a field stays as it is.

    (p.revised d).city = (the city of d, when it is not blank, or else that of p)
-/

namespace Accounts

open Calendar

/-- A text that is not empty. -/
def someText (t : Option LooseText) : Option LooseText := t.filter fun t => t.chars != ""

/-- The revision without the parts that mean no change. -/
def Details.changes (d : Details) : Details where
  firstName := someText d.firstName
  lastName := someText d.lastName
  email := someText d.email
  role := someText d.role
  about := someText d.about
  phoneNumber := someText d.phoneNumber
  address := someText d.address
  city := someText d.city
  gender := someText d.gender
  postcode := d.postcode.filter fun n => n != 0
  birthday := d.birthday

/-- No text is broken. -/
def Details.isWhole (d : Details) : Bool :=
  d.email.all (·.isWhole) && ProfileText.all.all fun field => (d.text field).all (·.isWhole)

/-- The characters of a text. -/
def charsOf (t : Option LooseText) : Option String := t.map (·.chars)

/-- The profile with the changes of a revision. -/
def Profile.revised (p : Profile) (d : Details) : Profile :=
  { p with
    firstName := (charsOf d.changes.firstName).getD p.firstName
    lastName := (charsOf d.changes.lastName).getD p.lastName
    email := (charsOf d.changes.email).getD p.email
    role := (charsOf d.changes.role).getD p.role
    about := (charsOf d.changes.about).or p.about
    phoneNumber := (charsOf d.changes.phoneNumber).or p.phoneNumber
    address := (charsOf d.changes.address).or p.address
    city := (charsOf d.changes.city).or p.city
    gender := (charsOf d.changes.gender).or p.gender
    postcode := d.changes.postcode.or p.postcode
    birthday := d.changes.birthday.or p.birthday }

/-- The changed fields with their new values. -/
def Details.changedMembers (d : Details) : List (String × Json) :=
  let c := d.changes
  [("first_name", c.firstName.map .ofLoose), ("last_name", c.lastName.map .ofLoose),
    ("email", c.email.map .ofLoose), ("role", c.role.map .ofLoose), ("about", c.about.map .ofLoose),
    ("phone_number", c.phoneNumber.map .ofLoose), ("address", c.address.map .ofLoose),
    ("city", c.city.map .ofLoose), ("gender", c.gender.map .ofLoose),
    ("postcode", c.postcode.map .int),
    ("birthday", c.birthday.map fun b => .str b.text)].filterMap
    fun (name, value) => value.map fun v => (name, v)

/-- The names of the changed fields, in alphabetical order. -/
def Details.changedFields (d : Details) : List String :=
  (d.changedMembers.map (·.1)).mergeSort fun a b => decide (a ≤ b)

end Accounts
