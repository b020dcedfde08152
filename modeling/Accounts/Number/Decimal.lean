/-!
# Decimal numerals

Digits of natural numbers and integers as text, and back.  `digits` writes no leading zero,
`padded` writes at least a given number of places, and `ofDigits?` reads both.
-/

namespace Accounts.Number

/-! ## Algorithm -/

/-- The character of a digit below ten. -/
def digitChar (d : Nat) : Char := Char.ofNat (48 + d % 10)

/-- The value of an ASCII digit. -/
def digit? (c : Char) : Option Nat :=
  if 48 ≤ c.toNat ∧ c.toNat ≤ 57 then some (c.toNat - 48) else none

/-- An ASCII digit. -/
def isDigit (c : Char) : Bool := (digit? c).isSome

/-- The decimal digits of a number. -/
def digits (n : Nat) : List Char :=
  if n < 10 then [digitChar n] else digits (n / 10) ++ [digitChar n]
termination_by n

/-- The digits of a number, filled up with zeros to a width. -/
def padded (width n : Nat) : List Char :=
  let ds := digits n
  List.replicate (width - ds.length) '0' ++ ds

/-- An integer in decimal. -/
def intDigits (i : Int) : List Char :=
  if i < 0 then '-' :: digits i.natAbs else digits i.natAbs

/-- The number that a list of digits goes on to write after a value. -/
def readDigits (value : Nat) : List Char → Option Nat
  | [] => some value
  | c :: cs =>
    match digit? c with
    | some d => readDigits (10 * value + d) cs
    | none => none

/-- The number that a non-empty list of digits writes. -/
def ofDigits? : List Char → Option Nat
  | [] => none
  | cs => readDigits 0 cs

/-- An integer as text. -/
def intText (i : Int) : String := String.ofList (intDigits i)

/-- A natural number as text. -/
def natText (n : Nat) : String := String.ofList (digits n)

end Accounts.Number
