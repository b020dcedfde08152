import Accounts.Json.Basic
import Accounts.Text.Ranges

/-!
# Writing JSON

Compact text: no space between tokens, members in their order.  Two ways to write a string:
`plain` keeps every character that needs no escape, `ascii` also escapes all that is not
printable ASCII, with surrogate pairs beyond U+FFFF.
-/

namespace Accounts.Json

open Number Text

/-! ## Strings -/

/-- Which characters are escaped. -/
inductive Escaping where
  | plain
  | ascii
  deriving DecidableEq

/-- A 16-bit unit as an escape. -/
def unitEscape (n : Nat) : List Char :=
  ['\\', 'u', hexChar (n / 4096), hexChar (n / 256), hexChar (n / 16), hexChar n]

/-- A code point as one escape or as a surrogate pair. -/
def codeEscape (n : Nat) : List Char :=
  if n < 0x10000 then unitEscape n
  else unitEscape (0xD800 + (n - 0x10000) / 1024) ++ unitEscape (0xDC00 + (n - 0x10000) % 1024)

/-- A character inside a string. -/
def escapeChar (mode : Escaping) (c : Char) : List Char :=
  if c = '"' then ['\\', '"']
  else if c = '\\' then ['\\', '\\']
  else if c = '\n' then ['\\', 'n']
  else if c = '\r' then ['\\', 'r']
  else if c = '\t' then ['\\', 't']
  else if c = '\x08' then ['\\', 'b']
  else if c = '\x0c' then ['\\', 'f']
  else if c.toNat < 0x20 then codeEscape c.toNat
  else if mode = .ascii ∧ 0x7F ≤ c.toNat then codeEscape c.toNat
  else [c]

/-- A string between quotes. -/
def quote (mode : Escaping) (s : String) : List Char :=
  '"' :: (s.toList.flatMap (escapeChar mode) ++ ['"'])

/-! ## Values -/

mutual

/-- The text of a value. -/
def chars (mode : Escaping) : Json → List Char
  | null => "null".toList
  | bool true => "true".toList
  | bool false => "false".toList
  | int i => intDigits i
  | float x => x.text.toList
  | str s => quote mode s
  | brokenStr s => quote mode s
  | arr [] => ['[', ']']
  | arr (j :: js) => '[' :: (chars mode j ++ itemsChars mode js)
  | obj [] => ['\x7b', '\x7d']
  | obj ((k, j) :: ms) => '\x7b' :: (quote mode k ++ ':' :: (chars mode j ++ membersChars mode ms))

/-- The items after the first. -/
def itemsChars (mode : Escaping) : List Json → List Char
  | [] => [']']
  | j :: js => ',' :: (chars mode j ++ itemsChars mode js)

/-- The members after the first. -/
def membersChars (mode : Escaping) : List (String × Json) → List Char
  | [] => ['\x7d']
  | (k, j) :: ms => ',' :: (quote mode k ++ ':' :: (chars mode j ++ membersChars mode ms))

end

/-- The compact text of a value. -/
def render (mode : Escaping) (j : Json) : String := String.ofList (chars mode j)

end Accounts.Json
