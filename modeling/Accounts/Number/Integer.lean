import Accounts.Number.Decimal
import Accounts.Text.Blank
import Accounts.Unicode.Category

/-!
# Integers as people write them

A lenient reading of integers in base 10 or 16: white space around the numeral, one sign, `0x` in
base 16, single underscores between digits, and the decimal digits of all scripts.

    readInteger? 10 " +1_000 " = some 1000
-/

namespace Accounts.Number

open Text

/-- The white space of ASCII. -/
def isAsciiSpace (c : Char) : Bool := (9 ≤ c.toNat && c.toNat ≤ 13) || c = ' '

/-- Spaces and digits of all scripts as ASCII characters; `none` when another character is not
ASCII.  A text of ASCII characters alone is left as it is. -/
def asciiForm? (cs : List Char) : Option (List Char) :=
  if cs.all (·.toNat < 128) then some cs
  else cs.mapM fun c =>
    if c.toNat < 127 then some c
    else if isBlank c then some ' '
    else (Unicode.digit? c).map digitChar

/-- The value of a character as a digit. -/
def digitIn? (base : Nat) (c : Char) : Option Nat :=
  (hexDigit? c).filter (· < base)

/-- The number that digits in a base write, with single underscores between them. -/
def digitsIn? (base : Nat) (cs : List Char) : Option Nat :=
  let groups := cs.splitOn '_'
  if groups.any List.isEmpty then none
  else groups.flatten.foldlM (fun n c => (digitIn? base c).map (base * n + ·)) 0

/-- What is left after `0x` and an underscore, where the base allows it. -/
def afterBaseMark (base : Nat) : List Char → List Char
  | '0' :: x :: rest =>
    if base = 16 ∧ (x = 'x' ∨ x = 'X') then
      match rest with
      | '_' :: more => more
      | _ => rest
    else '0' :: x :: rest
  | rest => rest

/-- The greatest number of digits in base 10. -/
def maxLenientDigits : Nat := 4300

/-- The integer that a text writes in a base. -/
def readInteger? (base : Nat) (s : String) : Option Int := do
  let cs ← asciiForm? s.toList
  let cs := trimList isAsciiSpace cs
  let (negative, cs) := match cs with
    | '-' :: rest => (true, rest)
    | '+' :: rest => (false, rest)
    | rest => (false, rest)
  guard (base ≠ 10 || (cs.filter (· != '_')).length ≤ maxLenientDigits)
  let n ← digitsIn? base (afterBaseMark base cs)
  return if negative then -(n : Int) else n

end Accounts.Number
