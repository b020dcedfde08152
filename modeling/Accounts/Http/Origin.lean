import Accounts.Http.Message

/-!
# Calls from other sites

Browsers tell the origin of a call from another site, and ask before some calls.  Origins in a
list are granted access; a star in the list grants it to all.

    grants ["https://a"] "https://a" = true
    grants ["*"] origin              = true
-/

namespace Accounts.Http

/-! ## Origins -/

/-- A list of origins grants access to an origin. -/
def grants (origins : List String) (origin : String) : Bool :=
  origins.contains "*" || origins.contains origin

/-- The field that grants access to an origin, if it is granted. -/
def grantFields (origins : List String) (origin : String) : Headers :=
  if grants origins origin then [("access-control-allow-origin", origin)] else []

/-- The fields about origins in the response to a request. -/
def originFields (origins : List String) (r : Request) : Headers :=
  ("vary", "Origin") :: match r.header? "origin" with
    | some origin => ("access-control-allow-credentials", "true") :: grantFields origins origin
    | none => []

/-! ## Questions before a call -/

/-- The methods that other sites may use. -/
def sharedMethods : List String :=
  ["DELETE", "GET", "HEAD", "OPTIONS", "PATCH", "POST", "PUT", "QUERY"]

/-- What a question asks for that is not granted. -/
def denials (origins : List String) (origin method : String) (r : Request) : List String :=
  (if grants origins origin then [] else ["origin"])
    ++ (if sharedMethods.contains method then [] else ["method"])
    ++ (if (r.header? "access-control-request-private-network").isSome then ["private-network"]
      else [])

/-- The fields that responses to questions depend on. -/
def questionFields : List String :=
  ["Origin", "Access-Control-Request-Method", "Access-Control-Request-Headers",
    "Access-Control-Request-Private-Network"]

/-- The response to a question from an origin about a method. -/
def answerQuestion (origins : List String) (origin method : String) (r : Request) : Response :=
  let response := match denials origins origin method r with
    | [] => Response.ofText 200 "OK"
    | what => Response.ofText 400 ("Disallowed CORS " ++ String.intercalate ", " what)
  response.withFields
    (grantFields origins origin
      ++ [("access-control-allow-credentials", "true"),
        ("access-control-allow-methods", String.intercalate ", " sharedMethods),
        ("access-control-max-age", "600"),
        ("vary", String.intercalate ", " questionFields)]
      ++ ((r.header? "access-control-request-headers").map fun names =>
        ("access-control-allow-headers", names)).toList)

/-- The response to a request that is a question before a call. -/
def questionResponse? (origins : List String) (r : Request) : Option Response :=
  match r.header? "origin", r.header? "access-control-request-method" with
  | some origin, some method =>
    if r.method = "OPTIONS" then some (answerQuestion origins origin method r) else none
  | _, _ => none

end Accounts.Http
