import Accounts.Text.Ranges

/-!
# Identifiers of 128 bits

An identifier has 128 bits and is written as 32 hexadecimal digits in five groups.
-/

namespace Accounts

open Text

/-- An identifier of 128 bits. -/
structure Uuid where
  bits : BitVec 128
  deriving DecidableEq

namespace Uuid

/-- The identifier of the low 128 bits of a number. -/
def ofNat (n : Nat) : Uuid := ⟨BitVec.ofNat 128 n⟩

/-- The number of an identifier. -/
def toNat (u : Uuid) : Nat := u.bits.toNat

/-- The text in groups of 8, 4, 4, 4 and 12 digits. -/
def chars (u : Uuid) : List Char :=
  hexPlaces 8 (u.toNat >>> 96) ++ '-' :: (hexPlaces 4 (u.toNat >>> 80)
    ++ '-' :: (hexPlaces 4 (u.toNat >>> 64) ++ '-' :: (hexPlaces 4 (u.toNat >>> 48)
      ++ '-' :: hexPlaces 12 u.toNat)))

/-- The text of an identifier, in lowercase. -/
def text (u : Uuid) : String := String.ofList u.chars

/-- The digits that write a number in base 16. -/
def ofHex? (cs : List Char) : Option Uuid :=
  if cs.length = 32 ∧ cs.all (fun c => (hexDigit? c).isSome) then some (ofNat (hexValue cs))
  else none

end Uuid

end Accounts
