import Accounts.Http.Cookie
import Accounts.Http.Refusal
import Accounts.Text.Lower

/-!
# Who sends a request

A request carries a token as a credential or else in a cookie.  Whatever is wrong with the token,
the refusal is the same; only the log tells more.
-/

namespace Accounts.Http

open Text

/-- A program that ends with a result or refuses a request. -/
abbrev Handler := ExceptT Refusal Program

namespace Handler

/-- The answer of the world to one request. -/
def request (r : Accounts.Request) : Handler r.Reply := ExceptT.lift (Program.request r)

/-- Run an action of the service. -/
def call (a : Action α) : Handler α := ExceptT.mk do
  match ← a.run with
  | .ok a => return .ok a
  | .error e => return .error (Refusal.ofError e)

/-- A value, or a refusal for its fault. -/
def accept (refuse : ε → Refusal) : Except ε α → Handler α
  | .ok a => return a
  | .error fault => throw (refuse fault)

end Handler

/-! ## Tokens -/

/-- The token that is given as a credential. -/
def bearerToken? (r : Request) : Option String :=
  match (r.header? "authorization").bind fun value => cut? ' ' value.toList with
  | some (scheme, rest) =>
    let token := strip (String.ofList rest)
    if (String.ofList scheme).toLower = "bearer" ∧ token ≠ "" then some token else none
  | none => none

/-- The token of a request: a credential, or else a cookie. -/
def token? (cookieName : String) (r : Request) : Option String :=
  ((bearerToken? r).or (r.cookie? cookieName)).filter (· ≠ "")

/-- The name under which a fault of a token is logged; a fault that nothing was made for has none. -/
def rejection? : Token.Fault → Option String
  | .malformed => some "MalformedTokenError"
  | .badSignature => some "SignatureMismatchError"
  | .unsupportedAlgorithm => some "UnsupportedAlgorithmError"
  | .expired => some "TokenExpiredError"
  | .badExpiry _ | .tooDeep | .encoding _ => none

/-- The claims of the token of a request. -/
def claims (room : Nat) (secret cookieName : String) (r : Request) : Handler Token.Claims := do
  match token? cookieName r with
  | none => throw .unauthorized
  | some token => do
    let now ← Handler.request .clock
    match Token.read room now secret token with
    | .ok claims => return claims
    | .error fault =>
      match rejection? fault with
      | some reason => do
        Handler.request (.log (.tokenRejected reason))
        throw .unauthorized
      | none => throw .unforeseen

/-- Go on only for the account that claims are about. -/
def requireSelf (claims : Token.Claims) (id : Uuid) : Handler Unit :=
  if claims.accountId = id then return else throw .forbidden

end Accounts.Http
