import Accounts.Account.Reader
import Accounts.Account.Writer
import Accounts.Cache.Client
import Accounts.Http.Access
import Accounts.Http.Endpoint
import Accounts.Http.Origin
import Accounts.Service.Identity

/-!
# The HTTP interface

Every endpoint reads its input in a fixed order and calls one operation of the service:

    body is readable -> token is valid -> path and body fit -> account is the own one -> service

Every response tells browsers to keep it to themselves, except answers to questions before a call
and responses to what nothing was made for.
-/

namespace Accounts.Http

open Handler

/-- What the interface needs to know. -/
structure Site where
  identity : Identity.Config
  cookie : Cookie
  origins : List String
  /-- How many arrays and objects the stack leaves room for inside a JSON value. -/
  room : Nat
  /-- What the pages that describe the interface say. -/
  pages : Page → String

/-! ## Input -/

/-- The identifier in a path. -/
def readId (argument : String) : Input.Checked Uuid :=
  ((Input.uuid (.str argument)).at "account_id").at "path"

/-- What a request carries as a record. -/
def receive (room : Nat) (read : Json → Input.Checked α) (r : Request) : Handler α := do
  let payload ← accept Refusal.ofPayload (r.payload room)
  accept Refusal.ofProblems (payload.read read)

/-- The claims of the token of a request. -/
def Site.claims (site : Site) (r : Request) : Handler Token.Claims :=
  Http.claims site.room site.identity.secret site.cookie.name r

/-! ## Output -/

/-- A profile as the response. -/
def profileResponse (account : Account) : Response := Response.ofJson 200 account.toProfile.json

/-- A response with a field for the cookie; there is none when the name cannot be written. -/
def withCookie (field : Option String) (response : Response) : Handler Response :=
  match field with
  | some field => return response.withFields [("set-cookie", field)]
  | none => throw .unforeseen

/-- A session as the response, with its token in the cookie. -/
def Site.grant (site : Site) (status : Nat) (session : Session) : Handler Response :=
  withCookie (site.cookie.issue? session.token) (Response.ofJson status session.view.json)

/-! ## Health -/

/-- The database answers; when it does not, that is logged. -/
def databaseAnswers : Handler Bool := do
  let reply : Except Store.Fault Unit ← request (.sql .probe)
  match reply with
  | .ok _ => return true
  | .error _ => do
    request (.log .healthCheckFailed)
    return false

/-- The state of the program and its parts.  Without the cache it goes on, only slower. -/
def healthJson (database cache : Bool) : Json :=
  .obj [
    ("status", .str (if !database then "unhealthy" else if !cache then "degraded" else "healthy")),
    ("database", .str (if database then "healthy" else "unhealthy")),
    ("cache", .str (if cache then "healthy" else "unavailable"))]

/-! ## Endpoints -/

/-- Answer a request at an endpoint, with the segment of the path that names an account. -/
def handle (site : Site) (r : Request) (argument : String) : Endpoint → Handler Response
  | .health => do
    let database ← databaseAnswers
    let cache ← call Cache.ping
    return Response.ofJson 200 (healthJson database cache)
  | .register => do
    let registration ← receive site.room Input.registration r
    site.grant 201 (← call (Identity.register site.identity registration))
  | .login => do
    let credentials ← receive site.room Input.credentials r
    site.grant 200 (← call (Identity.login site.identity credentials))
  | .me => do
    let claims ← site.claims r
    return profileResponse (← call (Identity.find site.identity claims.accountId))
  | .find => do
    let id ← accept Refusal.ofProblems (readId argument)
    return profileResponse (← call (Identity.find site.identity id))
  | .update => do
    let payload ← accept Refusal.ofPayload (r.payload site.room)
    let claims ← site.claims r
    let (id, details) ← accept Refusal.ofProblems
      (Input.Checked.of Prod.mk |>.apply (readId argument)
        |>.apply (payload.read Input.revision))
    requireSelf claims id
    return profileResponse (← call (Identity.update id details))
  | .delete => do
    let claims ← site.claims r
    let id ← accept Refusal.ofProblems (readId argument)
    requireSelf claims id
    call (Identity.delete id)
    let now ← request .clock
    withCookie (site.cookie.clear? now) (Response.ofJson 200 (.obj [(id.text, .str "Deleted")]))

/-- The address of the host. -/
def host : String := "http://test"

/-- Answer a request wherever it leads to. -/
def respond (site : Site) (r : Request) : Handler Response :=
  match r.destination with
  | .page page => return ⟨200, [("content-type", page.contentType)], .text (site.pages page)⟩
  | .endpoint e argument => handle site r argument e
  | .otherMethod allowed => throw (.otherMethod allowed)
  | .shorter target => return ⟨307, [("location", target.address host)], .empty⟩
  | .nowhere => throw .notFound

/-! ## Responses -/

/-- The fields that keep responses from being stored, guessed at or framed. -/
def securityFields : Headers :=
  [("x-content-type-options", "nosniff"), ("x-frame-options", "DENY"),
    ("cache-control", "no-store")]

/-- A response with the fields about security and origins. -/
def Site.dress (site : Site) (r : Request) (response : Response) : Response :=
  (response.withFields securityFields).withFields (originFields site.origins r)

/-- The response for the result of a request. -/
def Site.responseOf (site : Site) (r : Request) : Except Refusal Response → Response
  | .ok response => site.dress r response
  | .error .unforeseen => Refusal.response .unforeseen
  | .error refusal => site.dress r refusal.response

/-- Log a refusal that is to be logged. -/
def logRefusal (r : Request) : Except Refusal Response → Program Unit
  | .ok _ => return
  | .error refusal =>
    match refusal.event? r with
    | some event => Program.request (.log event)
    | none => return

/-- Answer a request. -/
def serve (site : Site) (r : Request) : Program Response := do
  match questionResponse? site.origins r with
  | some response => return response
  | none => do
    let result ← (respond site r).run
    logRefusal r result
    return (site.responseOf r result).toMethod r.method

end Accounts.Http
