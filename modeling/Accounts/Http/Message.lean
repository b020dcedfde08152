import Accounts.Http.Target
import Accounts.Json.Basic

/-!
# Requests and responses

The messages of HTTP as far as the program looks at them.  Names of header fields count in any
case; of several fields of one name the first counts, except for cookies.
-/

namespace Accounts.Http

/-- The fields of a header in their order. -/
abbrev Headers := List (String × String)

/-- A request. -/
structure Request where
  method : String
  target : Target
  headers : Headers
  body : String

namespace Request

/-- The values of the fields of a name, which is given in lowercase. -/
def values (name : String) (r : Request) : List String :=
  r.headers.filterMap fun (n, value) => if n.toLower = name then some value else none

/-- The value of the first field of a name, which is given in lowercase. -/
def header? (name : String) (r : Request) : Option String := (r.values name).head?

/-- The path for people to read. -/
def path (r : Request) : String := String.ofList (r.target.path.filter (· ≠ '\n'))

end Request

/-- What a response carries. -/
inductive Body where
  | empty
  | text (s : String)
  | json (j : Json)

/-- A response; the names of its fields are in lowercase. -/
structure Response where
  status : Nat
  headers : Headers
  body : Body

namespace Response

/-- A JSON value as a response. -/
def ofJson (status : Nat) (j : Json) : Response :=
  ⟨status, [("content-type", "application/json")], .json j⟩

/-- A text as a response. -/
def ofText (status : Nat) (s : String) : Response :=
  ⟨status, [("content-type", "text/plain; charset=utf-8")], .text s⟩

/-- The response with more fields. -/
def withFields (fields : Headers) (r : Response) : Response :=
  { r with headers := r.headers ++ fields }

/-- The response to a method: there is no body for `HEAD`. -/
def toMethod (method : String) (r : Response) : Response :=
  if method = "HEAD" then { r with body := .empty } else r

/-- The fields in the order of their names. -/
def sortedHeaders (r : Response) : Headers :=
  r.headers.mergeSort fun a b => decide (a.1 < b.1) || (a.1 == b.1 && decide (a.2 ≤ b.2))

end Response

end Accounts.Http
