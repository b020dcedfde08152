import Accounts.Account.Violation
import Accounts.Http.Message
import Accounts.Input.Problem
import Accounts.Json.Encoding

/-!
# What requests carry

The body of a request counts as JSON when its content type says so.  A body that is no JSON is
refused; whether the JSON fits is looked at later.
-/

namespace Accounts.Http

open Number Text

/-! ## Content types -/

/-- A content type without parameters, in lowercase. -/
def mediaType (value : String) : List Char :=
  (trimList isBlank (value.toList.takeWhile (· ≠ ';'))).map Char.toLower

/-- A content type is that of JSON. -/
def isJsonType (value : String) : Bool :=
  match (mediaType value).splitOn '/' with
  | [main, kind] =>
    String.ofList main == "application"
      && (kind == "json".toList || "+json".toList.isSuffixOf kind)
  | _ => false

/-! ## Bodies -/

/-- What a request carries. -/
inductive Payload where
  | nothing
  | json (j : Json)
  | other

/-- Why a payload cannot be read. -/
inductive PayloadFault where
  /-- The text breaks the grammar at an offset. -/
  | malformed (offset : Nat)
  /-- The bytes are no text, or a number is too long, or something is nested too deep. -/
  | unreadable
  deriving DecidableEq

/-- The JSON value that bytes write.  There is room for so many arrays and objects in it. -/
def readJson (room : Nat) (bytes : List UInt8) : Except PayloadFault Json :=
  match Json.decodeText? bytes with
  | none => .error .unreadable
  | some cs =>
    match Json.read (.within room) cs with
    | .ok j => .ok j
    | .error (.malformed left) => .error (.malformed (cs.length - left))
    | .error _ => .error .unreadable

/-- What a request carries. -/
def Request.payload (room : Nat) (r : Request) : Except PayloadFault Payload :=
  if r.body.isEmpty then .ok .nothing
  else if ((r.header? "content-type").map isJsonType).getD false then
    match readJson room (bytesOf r.body) with
    | .ok .null => .ok .nothing
    | .ok j => .ok (.json j)
    | .error fault => .error fault
  else .ok .other

/-- A record in a payload. -/
def Payload.read (read : Json → Input.Checked α) : Payload → Input.Checked α
  | nothing => .fail .missing
  | json (.obj members) => read (.obj members)
  | _ => .fail .notObject

/-! ## Faults for people -/

/-- A problem with input as a violation: the path of its field between points, and its message. -/
def violationOf (p : Input.Problem) : Violation :=
  ⟨String.intercalate "." p.path, p.cause.message⟩

/-- A place in a text that is no JSON, as a violation. -/
def violationAt (offset : Nat) : Violation :=
  ⟨natText offset, Input.Cause.notJson.message⟩

end Accounts.Http
