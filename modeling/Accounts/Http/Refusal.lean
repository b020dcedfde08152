import Accounts.Http.Payload
import Accounts.Service.Program

/-!
# Refusals

A request that gets no result gets a refusal: a status and a detail that is safe to show.  The
cause of a failure is only logged.  What nothing was made for is answered with a bare text.
-/

namespace Accounts

/-- A violation as JSON. -/
def Violation.json (v : Violation) : Json :=
  .obj [("field", .str v.field), ("message", .str v.message)]

/-- Violations as JSON. -/
def Violation.listJson (vs : List Violation) : Json := .arr (vs.map Violation.json)

namespace Http

/-- Why a request gets no result. -/
inductive Refusal where
  | unreadableBody
  | invalidInput (violations : List Violation)
  | unauthorized
  | forbidden
  | notFound
  | otherMethod (allowed : String)
  | failed (f : Failure)
  | timedOut
  /-- A fault that nothing was made for. -/
  | unforeseen
  deriving DecidableEq

/-- The status of a kind of failures.  That an email is taken is no conflict to callers. -/
def kindStatus : Cause.Kind → Nat
  | .validation | .conflict => 400
  | .unauthorized => 401
  | .notFound => 404
  | .internal => 500

namespace Refusal

/-- The status of a refusal. -/
def status : Refusal → Nat
  | unreadableBody | invalidInput _ => 400
  | unauthorized => 401
  | forbidden => 403
  | notFound => 404
  | otherMethod _ => 405
  | failed f => kindStatus f.cause.kind
  | timedOut => 504
  | unforeseen => 500

/-- The text of a refusal. -/
def detail : Refusal → String
  | unreadableBody => "There was an error parsing the body"
  | invalidInput _ => "Invalid input"
  | unauthorized => "Unauthorized"
  | forbidden => "Forbidden"
  | notFound => "Not Found"
  | otherMethod _ => "Method Not Allowed"
  | failed f => f.message
  | timedOut => "Request timed out"
  | unforeseen => "Internal Server Error"

/-- The violations that a refusal tells of. -/
def violations? : Refusal → Option (List Violation)
  | invalidInput violations => some violations
  | failed f => f.cause.violations?
  | _ => none

/-- The fields that a refusal adds: how to get access, or the method that there is. -/
def fields : Refusal → Headers
  | otherMethod allowed => [("allow", allowed)]
  | refusal => if refusal.status = 401 then [("www-authenticate", "Bearer")] else []

/-- The response of a refusal. -/
def response (refusal : Refusal) : Response :=
  if refusal = unforeseen then Response.ofText refusal.status refusal.detail
  else
    (Response.ofJson refusal.status (.obj (("detail", .str refusal.detail)
      :: (refusal.violations?.map fun vs => ("violations", Violation.listJson vs)).toList))
    ).withFields refusal.fields

/-- The event that a refusal of a request is logged as. -/
def event? (r : Request) : Refusal → Option Event
  | failed f =>
    if f.cause.kind = .internal then some (.requestFailed r.method r.path f)
    else some (.requestRejected r.method r.path f)
  | timedOut => some (.requestTimedOut r.method r.path)
  | _ => none

/-- The refusal for an error of an action. -/
def ofError : Error → Refusal
  | .failure f => failed f
  | .store .timedOut => timedOut
  | _ => unforeseen

/-- The refusal for a payload that cannot be read. -/
def ofPayload : PayloadFault → Refusal
  | .malformed offset => invalidInput [violationAt offset]
  | .unreadable => unreadableBody

/-- The refusal for problems with input. -/
def ofProblems (ps : List Input.Problem) : Refusal := invalidInput (ps.map violationOf)

end Refusal

end Http

end Accounts
