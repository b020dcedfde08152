import Accounts.Calendar.DateTime
import Accounts.Digest.Hmac
import Accounts.Json.Writer
import Accounts.Number.Word
import Accounts.Text.Base64Url
import Accounts.Text.Utf8
import Accounts.Token.Key
import Accounts.Uuid.Basic

/-!
# Issuing tokens

A token is three texts in base 64 with points between them: a header, the claims, and the
authentication code of the first two under a secret.

    signingInput = header "." payload
    token        = signingInput "." hmac secret signingInput
-/

namespace Accounts.Token

open Calendar Digest Number Text

/-- Why a token cannot be issued. -/
inductive IssueFault where
  /-- The days that a token lives do not fit a machine word. -/
  | lifetimeTooLong
  /-- The token lives more days than a time span can have. -/
  | tooManyDays (days : Int)
  /-- The token expires in a year that the calendar does not have. -/
  | expiryOutOfRange
  | unusableKey (fault : KeyFault)
  deriving DecidableEq

/-- The wording of a fault. -/
def IssueFault.message : IssueFault → String
  | lifetimeTooLong => "Python int too large to convert to C int"
  | tooManyDays days => "days=" ++ Number.intText days ++ "; must have magnitude <= 999999999"
  | expiryOutOfRange => "date value out of range"
  | unusableKey fault => fault.message

/-- A text in base 64. -/
def segment (cs : List Char) : List Char := Base64Url.encode (utf8 cs)

/-- The header of the tokens that are issued. -/
def header : Json := .obj [("alg", .str "HS256"), ("typ", .str "JWT")]

/-- The claims of a token. -/
def payload (id : Uuid) (email : String) (issued expires : Int) : Json :=
  .obj [("id", .str id.text), ("email", .str email), ("iat", .int issued), ("exp", .int expires)]

/-- Put the authentication code behind the text that it signs. -/
def sign (secret : String) (input : List Char) : List Char :=
  input ++ '.' :: Base64Url.encode (Hash.sha256.hmac (bytesOf secret) (utf8 input))

/-- The header and the claims of a token. -/
def signingInput (header payload : Json) : List Char :=
  segment (header.chars .ascii) ++ '.' :: segment (payload.chars .ascii)

/-- The days of a time span of minutes. -/
def spanDays (minutes : Int) : Int := minutes.fdiv 1440

/-- The second at which a token of a lifetime in minutes expires. -/
def expiry (now : Instant) (minutes : Int) : Except IssueFault Int :=
  let days := spanDays minutes
  if !fitsWord 32 days then .error .lifetimeTooLong
  else if 999999999 < days.natAbs then .error (.tooManyDays days)
  else
    let expires := now + minutes * (60 * second)
    match DateTime.ofInstant? none expires with
    | some _ => .ok (Instant.seconds expires)
    | none => .error .expiryOutOfRange

/-- A token for an account. -/
def issue (now : Instant) (secret : String) (minutes : Int) (id : Uuid) (email : String) :
    Except IssueFault String := do
  let expires ← expiry now minutes
  match keyFault? secret with
  | some fault => .error (.unusableKey fault)
  | none =>
    let claims := payload id email (Instant.seconds now) expires
    return String.ofList (sign secret (signingInput header claims))

end Accounts.Token
