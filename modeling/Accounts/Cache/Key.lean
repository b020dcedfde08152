import Accounts.Uuid.Basic

/-!
# Keys of cached accounts

Every account has one key, and different accounts have different keys.  The version in the key
changes when the form of the entries does.
-/

namespace Accounts.Cache

/-- The version of the form of the entries. -/
def schemaVersion : Nat := 1

/-- The beginning of all keys. -/
def keyStart : String := "api-auth:v" ++ Nat.repr schemaVersion ++ ":"

/-- The key of an account. -/
def key (id : Uuid) : String := keyStart ++ id.text

end Accounts.Cache
