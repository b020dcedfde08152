import Accounts.Account.Reader
import Accounts.Account.Writer
import Accounts.Json.Reader
import Accounts.Json.Writer

/-!
# Cached accounts as text

A cached account is the JSON text of its profile; a password is never written.  Reading takes any
JSON text of an account, as long as it is not nested too deep and has no broken string and no
integer of more than 4300 digits.

    decode (encode a) = some a.sanitized      when the postcode has no more digits than that
-/

namespace Accounts.Cache

/-- The text under which an account is cached. -/
def encode (a : Account) : String := a.toProfile.json.render .plain

/-- What the reader of cached texts takes. -/
def limits : Json.Limits := { depth := 200, loose := false }

/-- The account that a cached text writes. -/
def decode (text : String) : Option Account :=
  match Json.read limits text.toList with
  | .ok j => (Input.account j).toOption
  | .error _ => none

end Accounts.Cache
