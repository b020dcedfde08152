import Accounts.Number.Integer
import Accounts.Text.Quoted
import Accounts.Uuid.Reader

/-!
# Identifiers in loose spelling

A looser reading of identifiers than that of fields: marks, braces and hyphens are taken out
wherever they stand, and the 32 characters that remain are read as an integer in base 16.
-/

namespace Accounts.Uuid

open Number Text

/-- Why a text is no identifier. -/
inductive LooseFault where
  | badLength
  | badNumeral (digits : List Char)
  deriving DecidableEq

/-- The most characters of a quoted numeral in a message. -/
def quoteLimit : Nat := 200

/-- The wording of a fault. -/
def LooseFault.message : LooseFault → String
  | badLength => "badly formed hexadecimal UUID string"
  | badNumeral digits =>
    "invalid literal for int() with base 16: " ++ String.ofList ((quoted digits).take quoteLimit)

/-- A text without any occurrence of a word, found from left to right.  The number counts the
characters of the last occurrence that are still to be passed over. -/
def removeAll (word : List Char) : Nat → List Char → List Char
  | _, [] => []
  | skip + 1, _ :: cs => removeAll word skip cs
  | 0, c :: cs =>
    if word.isPrefixOf (c :: cs) then removeAll word (word.length - 1) cs
    else c :: removeAll word 0 cs

/-- A text without marks, braces and hyphens. -/
def looseDigits (cs : List Char) : List Char :=
  let cs := removeAll "urn:".toList 0 cs
  let cs := removeAll "uuid:".toList 0 cs
  (trimList (fun c => c = '\x7b' || c = '\x7d') cs).filter (· ≠ '-')

/-- The identifier that a text spells. -/
def readLoose (s : String) : Except LooseFault Uuid :=
  let digits := looseDigits s.toList
  if digits.length ≠ 32 then .error .badLength
  else
    match readInteger? 16 (String.ofList digits) with
    | some (.ofNat n) => .ok (ofNat n)
    | _ => .error (.badNumeral digits)

end Accounts.Uuid
