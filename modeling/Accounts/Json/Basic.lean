import Accounts.Assoc
import Accounts.Number.Binary64
import Accounts.Text.Loose

/-!
# JSON values

Integers are unbounded and kept apart from floating point numbers.  The members of an object are
in the order in which their names first came, each name once.
-/

namespace Accounts

open Number (Binary64)

/-- A JSON value. -/
inductive Json where
  | null
  | bool (b : Bool)
  | int (i : Int)
  | float (x : Binary64)
  | str (s : String)
  /-- A string with an unpaired surrogate, which is kept as a replacement character. -/
  | brokenStr (s : String)
  | arr (items : List Json)
  | obj (members : List (String × Json))

namespace Json

/-- Look a member up. -/
def member? (name : String) (members : List (String × Json)) : Option Json :=
  Assoc.get? name members

/-- Look a member of an object up. -/
def get? (j : Json) (name : String) : Option Json :=
  match j with
  | obj members => member? name members
  | _ => none

/-- A text or null. -/
def ofText? : Option String → Json
  | some s => str s
  | none => null

/-- A text that may be broken. -/
def ofLoose (t : LooseText) : Json := if t.isWhole then str t.chars else brokenStr t.chars

/-- A text that may be broken, or null. -/
def ofLoose? : Option LooseText → Json
  | some t => ofLoose t
  | none => null

mutual

/-- Some object in the value, at any depth, has a member of this name. -/
def mentions (name : String) : Json → Bool
  | arr items => itemsMention name items
  | obj members => membersMention name members
  | _ => false

/-- Some item mentions the name. -/
def itemsMention (name : String) : List Json → Bool
  | [] => false
  | j :: js => mentions name j || itemsMention name js

/-- Some member has the name or mentions it. -/
def membersMention (name : String) : List (String × Json) → Bool
  | [] => false
  | (k, j) :: ms => k == name || mentions name j || membersMention name ms

end

end Json

end Accounts
