import Accounts.Text.Ranges
import Accounts.Text.Utf8

/-!
# Percent encoding

A byte is written as a percent sign and two hexadecimal digits.  Reading leaves alone what is no
such code; writing leaves alone letters, digits, four signs and a class of further characters.

    percentDecode (percentEncode safe cs) = cs   when `%` is not safe
-/

namespace Accounts.Text

/-! ## Reading -/

/-- The byte that two hexadecimal digits write. -/
def hexByte? (a b : Char) : Option UInt8 :=
  match hexDigit? a, hexDigit? b with
  | some x, some y => some (UInt8.ofNat (16 * x + y))
  | _, _ => none

/-- The bytes of a text with its codes read as bytes. -/
def percentBytes : List Char → List UInt8
  | '%' :: a :: b :: rest =>
    match hexByte? a b with
    | some x => x :: percentBytes rest
    | none => utf8 ['%'] ++ percentBytes (a :: b :: rest)
  | c :: rest => utf8 [c] ++ percentBytes rest
  | [] => []

/-- A text without percent encoding. -/
def percentDecode (cs : List Char) : List Char := lossyText (percentBytes cs)

/-! ## Writing -/

/-- A character that percent encoding always leaves alone. -/
def isUnreserved (c : Char) : Bool :=
  c.isAlpha || c.isDigit || c = '_' || c = '.' || c = '-' || c = '~'

/-- The code of a byte. -/
def percentByte (b : UInt8) : List Char :=
  ['%', (hexChar (b.toNat / 16)).toUpper, (hexChar b.toNat).toUpper]

/-- A text in percent encoding, except for the characters of a class. -/
def percentEncode (safe : Char → Bool) (cs : List Char) : List Char :=
  cs.flatMap fun c => if isUnreserved c || safe c then [c] else (utf8 [c]).flatMap percentByte

end Accounts.Text
