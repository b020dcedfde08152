import Accounts.Json.Reader
import Accounts.Text.Utf8

/-!
# JSON as bytes

The bytes of a JSON text are UTF-8, UTF-16 or UTF-32.  A mark at the start tells which, and
without one the places of the zero bytes do, because a JSON text starts with ASCII characters.
-/

namespace Accounts.Json

open Text

/-- The encodings of a JSON text. -/
inductive Encoding where
  | utf8
  | utf16 (bigEndian : Bool)
  | utf32 (bigEndian : Bool)
  deriving DecidableEq

/-- The encoding of a text and the text without its mark. -/
def Encoding.detect : List UInt8 → Encoding × List UInt8
  | 0 :: 0 :: 0xFE :: 0xFF :: rest => (utf32 true, rest)
  | 0xFF :: 0xFE :: 0 :: 0 :: rest => (utf32 false, rest)
  | 0xFE :: 0xFF :: rest => (utf16 true, rest)
  | 0xFF :: 0xFE :: rest => (utf16 false, rest)
  | 0xEF :: 0xBB :: 0xBF :: rest => (utf8, rest)
  | [a, b] =>
    (if a = 0 then utf16 true else if b = 0 then utf16 false else utf8, [a, b])
  | a :: b :: c :: d :: rest =>
    (if a = 0 then (if b = 0 then utf32 true else utf16 true)
      else if b = 0 then (if c = 0 ∧ d = 0 then utf32 false else utf16 false)
      else utf8, a :: b :: c :: d :: rest)
  | bytes => (utf8, bytes)

/-- The units of two bytes of a text. -/
def units16? (bigEndian : Bool) : List UInt8 → Option (List Nat)
  | [] => some []
  | [_] => none
  | a :: b :: rest =>
    (units16? bigEndian rest).map fun units =>
      (if bigEndian then a.toNat * 256 + b.toNat else b.toNat * 256 + a.toNat) :: units

/-- The units of four bytes of a text. -/
def units32? (bigEndian : Bool) : List UInt8 → Option (List Nat)
  | [] => some []
  | a :: b :: c :: d :: rest =>
    let high := if bigEndian then a.toNat * 256 + b.toNat else d.toNat * 256 + c.toNat
    let low := if bigEndian then c.toNat * 256 + d.toNat else b.toNat * 256 + a.toNat
    (units32? bigEndian rest).map fun units => (high * 65536 + low) :: units
  | _ => none

/-- The characters of codes. -/
def charsOf? (codes : List Nat) : Option (List Char) :=
  if codes.all (fun n => decide n.isValidChar) then some (codes.map Char.ofNat) else none

/-- The text that bytes write in an encoding. -/
def Encoding.decode? : Encoding → List UInt8 → Option (List Char)
  | utf8, bytes => ofUtf8? bytes
  | utf16 bigEndian, bytes => (units16? bigEndian bytes).bind fun us => charsOf? (joinPairs us)
  | utf32 bigEndian, bytes => (units32? bigEndian bytes).bind charsOf?

/-- The text that bytes write. -/
def decodeText? (bytes : List UInt8) : Option (List Char) :=
  let (encoding, rest) := Encoding.detect bytes
  encoding.decode? rest

end Accounts.Json
