import Accounts.Calendar.DateTime
import Accounts.Http.Message
import Accounts.Number.Decimal
import Accounts.Text.Blank

/-!
# Cookies

Cookies of requests are read leniently: pairs between semicolons, blanks around names and values
left out, values between double quotes with escapes.  Cookies of responses are written with
attributes in a fixed order:

    name=value; HttpOnly; Max-Age=3600; Path=/; SameSite=lax; Secure
-/

namespace Accounts.Http

open Calendar Number Text

/-! ## Reading -/

/-- The character that three octal digits write. -/
def octalChar? (a b c : Char) : Option Char :=
  let digit (limit : Char) (d : Char) : Bool := '0' ≤ d && d ≤ limit
  let value (d : Char) : Nat := d.toNat - '0'.toNat
  if digit '3' a && digit '7' b && digit '7' c then
    some (Char.ofNat (64 * value a + 8 * value b + value c))
  else none

/-- A text with its escapes read: a backslash before three octal digits or before a character. -/
def unescapeCookie : List Char → List Char
  | '\\' :: a :: b :: c :: rest =>
    match octalChar? a b c with
    | some d => d :: unescapeCookie rest
    | none => a :: unescapeCookie (b :: c :: rest)
  | '\\' :: a :: rest => a :: unescapeCookie rest
  | c :: rest => c :: unescapeCookie rest
  | [] => []

/-- The value that a text stands for, which may be quoted. -/
def unquoteCookie (cs : List Char) : List Char :=
  match cs with
  | '"' :: rest => if rest.getLast? = some '"' then unescapeCookie rest.dropLast else cs
  | _ => cs

/-- The name and the value of a piece, unless both are empty; a piece without an equals sign has
no name. -/
def readCookie? (piece : List Char) : Option (String × String) :=
  let (name, value) := (cut? '=' piece).getD ([], piece)
  let name := trimList isBlank name
  let value := trimList isBlank value
  if name.isEmpty ∧ value.isEmpty then none
  else some (String.ofList name, String.ofList (unquoteCookie value))

/-- The cookies of a request in their order. -/
def Request.cookies (r : Request) : List (String × String) :=
  (r.values "cookie").flatMap fun field => (field.toList.splitOn ';').filterMap readCookie?

/-- The value of the last cookie of a name. -/
def Request.cookie? (name : String) (r : Request) : Option String :=
  (r.cookies.reverse.find? fun c => c.1 = name).map (·.2)

/-! ## Writing -/

/-- A cookie that responses set. -/
structure Cookie where
  name : String
  maxAge : Int
  secure : Bool
  httpOnly : Bool

namespace Cookie

/-- The signs of names. -/
def nameSigns : List Char := "!#$%&'*+-.^_`|~:".toList

/-- A character of names. -/
def isNameChar (c : Char) : Bool := c.isAlphanum || nameSigns.contains c

/-- The names of attributes, which no cookie can have. -/
def attributeNames : List String :=
  ["expires", "path", "comment", "domain", "max-age", "secure", "httponly", "version", "samesite"]

/-- The cookie has a name that can be written. -/
def isNamed (c : Cookie) : Bool :=
  c.name ≠ "" && c.name.toList.all isNameChar && !attributeNames.contains c.name.toLower

/-- The field that sets the cookie to a value. -/
def issue? (c : Cookie) (value : String) : Option String :=
  if c.isNamed then
    some (c.name ++ "=" ++ value ++ (if c.httpOnly then "; HttpOnly" else "")
      ++ "; Max-Age=" ++ intText c.maxAge ++ "; Path=/; SameSite=lax"
      ++ (if c.secure then "; Secure" else ""))
  else none

/-- The field that takes the cookie away. -/
def clear? (c : Cookie) (now : Instant) : Option String :=
  if c.isNamed then
    some (c.name ++ "=\"\"; expires=" ++ messageDate now ++ "; Max-Age=0; Path=/; SameSite=lax")
  else none

end Cookie

end Accounts.Http
