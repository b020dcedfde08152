import Accounts.Account.Changes
import Accounts.Account.Normal

/-!
# The table of accounts as a value

Rows in the order in which they were inserted.  No two rows have the same identifier or the same
email: inserting and changing fail when they would break this.

    (rows.insert row).map (·.find? row.id) = some (some row)     for a new identifier
-/

namespace Accounts.Store

open Calendar

/-- An account as it is stored, with the hash of its password. -/
structure Row where
  profile : Profile
  hash : String
  deriving DecidableEq

/-- The account of a row, with the hash. -/
def Row.secret (r : Row) : Account := ⟨r.profile, some r.hash⟩

/-- The account of a row, without the hash. -/
def Row.account (r : Row) : Account := ⟨r.profile, none⟩

/-- The table of accounts. -/
abbrev Table := List Row

namespace Table

/-- The row of an identifier. -/
def find? (t : Table) (id : Uuid) : Option Row := List.find? (fun r => r.profile.id = id) t

/-- The row with an email. -/
def findEmail? (t : Table) (email : String) : Option Row :=
  List.find? (fun r => r.profile.email = email) t

/-- Add a row, unless its identifier or its email is taken. -/
def insert? (t : Table) (row : Row) : Option Table :=
  if (t.find? row.profile.id).isSome || (t.findEmail? row.profile.email).isSome then none
  else some (t ++ [row])

/-- An email belongs to a row of another identifier. -/
def takenByOther (t : Table) (id : Uuid) (email : String) : Bool :=
  t.any fun r => r.profile.email = email && r.profile.id != id

/-- Replace the row of an identifier. -/
def replace (t : Table) (id : Uuid) (row : Row) : Table :=
  t.map fun r => if r.profile.id = id then row else r

/-- Take the row of an identifier away. -/
def remove (t : Table) (id : Uuid) : Table := t.filter fun r => r.profile.id ≠ id

end Table

/-- The row after the changes of a revision at a time. -/
def Row.revised (r : Row) (d : Details) (time : DateTime) : Row :=
  { r with profile := { r.profile.revised d with updatedAt := time } }

/-! ## New rows -/

/-- The values of a new row, apart from those that the table gives it. -/
structure Draft where
  firstName : String
  lastName : String
  email : Option String
  role : String
  about : Option String
  phoneNumber : Option String
  address : Option String
  city : Option String
  gender : Option String
  postcode : Option Int
  birthday : Option Date
  hash : String
  /-- No text of the registration was broken. -/
  isWhole : Bool := true
  deriving DecidableEq

/-- The values that a registration and a hash give a new row. -/
def Draft.ofRegistration (r : Registration) (hash : String) : Draft where
  firstName := (charsOf r.details.firstName).getD ""
  lastName := (charsOf r.details.lastName).getD ""
  email := charsOf r.details.email
  role := orElse ((charsOf r.details.role).getD "") defaultRole
  about := charsOf r.details.about
  phoneNumber := charsOf r.details.phoneNumber
  address := charsOf r.details.address
  city := charsOf r.details.city
  gender := charsOf r.details.gender
  postcode := r.details.postcode
  birthday := r.details.birthday
  hash := hash
  isWhole := r.details.isWhole

/-- The row of a draft with an email, at a time. -/
def Draft.row (d : Draft) (id : Uuid) (email : String) (time : DateTime) : Row where
  profile :=
    { id := id, firstName := d.firstName, lastName := d.lastName, email := email, role := d.role,
      about := d.about, phoneNumber := d.phoneNumber, address := d.address, city := d.city,
      gender := d.gender, postcode := d.postcode, birthday := d.birthday, createdAt := time,
      updatedAt := time, loginDate := time }
  hash := d.hash

end Accounts.Store
