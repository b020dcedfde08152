import Accounts.Account.Basic
import Accounts.Number.Word

/-!
# The table of accounts

The columns of the table, with their types and whether they may be empty, as the migration makes
them.
-/

namespace Accounts.Database

open Number

/-- The types of columns. -/
inductive ColumnType where
  | identifier
  | text (limit : Nat)
  | longText
  | integer
  | date
  | timestamp
  deriving DecidableEq

/-- A column of a table. -/
structure Column where
  name : String
  type : ColumnType
  nullable : Bool
  comment : Option String := none

/-- The type of the column of a text of the profile. -/
def profileColumn (field : ProfileText) (nullable : Bool) : Column where
  name := field.name
  type := if field = .about then .longText else .text field.limit
  nullable := nullable

/-- The columns of the table of accounts. -/
def accountColumns : List Column :=
  [{ name := "id", type := .identifier, nullable := false },
    profileColumn .firstName false,
    profileColumn .lastName false,
    { name := "email", type := .text 60, nullable := false },
    { name := "password", type := .text 255, nullable := false,
      comment := some "bcrypt hash - never the plaintext" },
    profileColumn .role false,
    profileColumn .about true,
    profileColumn .phoneNumber true,
    profileColumn .address true,
    profileColumn .city true,
    profileColumn .gender true,
    { name := "postcode", type := .integer, nullable := true },
    { name := "birthday", type := .date, nullable := true },
    { name := "login_date", type := .timestamp, nullable := false },
    { name := "created_at", type := .timestamp, nullable := false },
    { name := "updated_at", type := .timestamp, nullable := false }]

/-- The least and the greatest integer that an integer column of 32 bits holds. -/
def integerRange : Int × Int := (wordMin 32, wordMax 32)

end Accounts.Database
