import Accounts.Calendar.Reader
import Accounts.Json.Encoding
import Accounts.Text.Cut
import Accounts.Token.Issue
import Accounts.Uuid.Lenient

/-!
# Validating tokens

A token is taken apart, its header is checked, then its signature, then its claims.  The first
check that fails decides:

    segments -> header -> algorithm -> key -> signature -> claims -> account
-/

namespace Accounts.Token

open Calendar Digest Number Text

/-- Why an expiry is no date and time, although it lies in the future. -/
inductive ExpiryFault where
  | notANumber
  | year (n : Int)
  | yearTooLarge
  | tooLarge
  deriving DecidableEq

/-- The wording of a fault. -/
def ExpiryFault.message : ExpiryFault → String
  | notANumber => "'str' object cannot be interpreted as an integer"
  | year n => "year " ++ intText n ++ " is out of range"
  | yearTooLarge => "[Errno 75] Value too large for defined data type"
  | tooLarge => "timestamp out of range for platform time_t"

/-- Why a token is not accepted. -/
inductive Fault where
  | malformed
  | badSignature
  | unsupportedAlgorithm
  | expired
  | badExpiry (fault : ExpiryFault)
  /-- The JSON of the header or of the claims is nested too deep to be read. -/
  | tooDeep
  /-- The token is no text that has bytes. -/
  | encoding (fault : EncodingFault)
  deriving DecidableEq

/-- The wording of a fault. -/
def Fault.message : Fault → String
  | malformed => "Malformed token"
  | badSignature => "Token signature mismatch"
  | unsupportedAlgorithm => "Token algorithm not allowed"
  | expired => "Token has expired"
  | badExpiry fault => fault.message
  | tooDeep => "maximum recursion depth exceeded"
  | encoding fault => fault.message

/-- Who a token was issued for, and until when it is valid. -/
structure Claims where
  accountId : Uuid
  email : String
  expiresAt : DateTime
  deriving DecidableEq

/-- Go on only when a condition holds. -/
def require (fault : ε) (holds : Bool) : Except ε Unit :=
  if holds then .ok () else .error fault

/-- A value that has to be there. -/
def demand (fault : ε) : Option α → Except ε α
  | some a => .ok a
  | none => .error fault

/-! ## Segments -/

/-- A token taken apart. -/
structure Parts where
  signed : List Char
  header : List (String × Json)
  payload : Bytes
  signature : Bytes

/-- The members of a JSON object in bytes.  There is room for so many arrays and objects in it. -/
def objectOfBytes (room : Nat) (bytes : Bytes) : Except Fault (List (String × Json)) :=
  match (Json.decodeText? bytes).map (Json.read (.within room)) with
  | some (.ok (.obj members)) => .ok members
  | some (.error .tooDeep) => .error .tooDeep
  | _ => .error .malformed

/-- Take a token apart. -/
def Parts.ofChars (room : Nat) (cs : List Char) : Except Fault Parts := do
  let (signed, signature) ← demand .malformed (cutLast? '.' cs)
  let (header, payload) ← demand .malformed (cut? '.' signed)
  let header ← objectOfBytes room (← demand .malformed (Base64Url.decode? header))
  let payload ← demand .malformed (Base64Url.decode? payload)
  let signature ← demand .malformed (Base64Url.decode? signature)
  return ⟨signed, header, payload, signature⟩

/-! ## Header -/

/-- A member is a text when it is there. -/
def textOrAbsent (name : String) (members : List (String × Json)) : Bool :=
  match Json.member? name members with
  | none => true
  | some (.str _) => true
  | some (.brokenStr _) => true
  | some _ => false

/-- The names of critical members are a list of known ones that are there. -/
def criticalFits (header : List (String × Json)) : Bool :=
  match Json.member? "crit" header with
  | none => true
  | some (.arr names) =>
    !names.isEmpty && names.all fun
      | .str "b64" => (Json.member? "b64" header).isSome
      | _ => false
  | some _ => false

/-- The payload is in base 64, as always. -/
def payloadEncoded (header : List (String × Json)) : Bool :=
  match Json.member? "b64" header with
  | some (.bool false) => false
  | _ => true

/-- The digest that a header names. -/
def algorithm? (header : List (String × Json)) : Option Hash :=
  match Json.member? "alg" header with
  | some (.str "HS256") => some .sha256
  | some (.str "HS384") => some .sha384
  | some (.str "HS512") => some .sha512
  | _ => none

/-! ## Claims -/

/-- A claim as an integer: a number without its fraction, or a text that writes one. -/
def integerClaim? : Json → Option Int
  | .int n => some n
  | .bool b => some (if b then 1 else 0)
  | .float x => x.truncate?
  | .str s => readInteger? 10 s
  | _ => none

/-- A value that counts as nothing. -/
def isVoid : Json → Bool
  | .null => true
  | .bool b => !b
  | .int n => n == 0
  | .float (.finite _ m _) => m == 0
  | .str s => s.isEmpty
  | .arr items => items.isEmpty
  | .obj members => members.isEmpty
  | _ => false

/-- A claim that must be there and not be null. -/
def claim (name : String) (claims : List (String × Json)) : Except Fault Json :=
  match Json.member? name claims with
  | none | some .null => .error .malformed
  | some j => .ok j

/-- A time that must not lie in the future, if it is there. -/
def notAfter (now : Instant) (name : String) (claims : List (String × Json)) :
    Except Fault Unit :=
  match Json.member? name claims with
  | none => .ok ()
  | some j => do
    let t ← demand .malformed (integerClaim? j)
    require .malformed (t * second ≤ now)

/-- The identifier of an account in a claim. -/
def accountOf? (j : Json) : Option Uuid :=
  let text := match j with
    | .str s => some s
    | .int n => some (intText n)
    | _ => none
  text.bind fun s => (Uuid.readLoose s).toOption

/-- The text of a claim. -/
def textOf? : Json → Option String
  | .str s => some s
  | .brokenStr s => some s
  | _ => none

/-- The instant of an expiry in seconds. -/
def instantOf : Json → Except ExpiryFault Instant
  | .int n => .ok (n * second)
  | .bool b => .ok (if b then second else 0)
  | .float x => demand .tooLarge (instantOfFloat? x)
  | _ => .error .notANumber

/-- The date and time of an expiry. -/
def expiryOf (j : Json) : Except ExpiryFault DateTime := do
  let t ← instantOf j
  if (wordMax 64 + 1) * second ≤ t then throw .tooLarge
  match DateTime.ofInstant? (some .utc) t with
  | some d => .ok d
  | none =>
    let year := (Civil.ofDayNumber (t.fdiv (86400 * second))).year
    if year - 1900 ≤ wordMax 32 then .error (.year year) else .error .yearTooLarge

/-- The claims of a payload whose signature was checked. -/
def checkClaims (now : Instant) (claims : List (String × Json)) : Except Fault Claims := do
  let exp ← claim "exp" claims
  let id ← claim "id" claims
  let email ← claim "email" claims
  notAfter now "iat" claims
  notAfter now "nbf" claims
  let expires ← demand .malformed (integerClaim? exp)
  require .expired (now < expires * second)
  require .malformed (((Json.member? "aud" claims).map isVoid).getD true)
  require .malformed (textOrAbsent "sub" claims && textOrAbsent "jti" claims)
  let accountId ← demand .malformed (accountOf? id)
  let email ← demand .malformed (textOf? email)
  match expiryOf exp with
  | .ok expiresAt => return ⟨accountId, email, expiresAt⟩
  | .error fault => .error (.badExpiry fault)

/-! ## Tokens -/

/-- The claims of a token that is valid now under a secret.  What is left of the stack gives room for
so many arrays and objects inside the header and inside the claims. -/
def read (room : Nat) (now : Instant) (secret token : String) : Except Fault Claims := do
  let parts ← Parts.ofChars room token.toList
  require .malformed (textOrAbsent "kid" parts.header && criticalFits parts.header
    && payloadEncoded parts.header)
  let hash ← demand .unsupportedAlgorithm (algorithm? parts.header)
  require .malformed (keyFault? secret).isNone
  require .badSignature (hash.hmac (bytesOf secret) (utf8 parts.signed) == parts.signature)
  let claims ← objectOfBytes room parts.payload
  checkClaims now claims

/-- The claims of a token that may be broken. -/
def decode (room : Nat) (now : Instant) (secret : String) (token : LooseText) :
    Except Fault Claims :=
  match token.whole with
  | .ok token => read room now secret token
  | .error fault => .error (.encoding fault)

end Accounts.Token
