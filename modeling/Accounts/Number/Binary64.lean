import Accounts.Number.Decimal

/-!
# Binary floating point with 53 bits

A number of the format `binary64` is a mantissa of at most 53 bits times a power of two.  This
module rounds exact fractions and decimals to that format, ties to even, and writes a number with
the fewest digits that read back.

    ofDecimal false 1 (-1)          -- 0.1, the nearest number
    (ofDecimal false 1 (-1)).text   -- "0.1"
-/

namespace Accounts.Number

/-- A number of the format `binary64`. -/
inductive Binary64 where
  | nan
  | infinite (negative : Bool)
  /-- The value is the mantissa times two to the exponent. -/
  | finite (negative : Bool) (mantissa : Nat) (exponent : Int)
  deriving DecidableEq, Repr

namespace Binary64

/-! ## Rounding -/

/-- The quotient rounded to nearest, ties to even. -/
def roundDiv (num den : Nat) : Nat :=
  let q := num / den
  let r := num % den
  if 2 * r < den then q
  else if den < 2 * r then q + 1
  else if q % 2 = 0 then q else q + 1

/-- A fraction divided by a power of two, as a fraction. -/
def scale (num den : Nat) (exponent : Int) : Nat × Nat :=
  if 0 ≤ exponent then (num, den * Nat.pow 2 exponent.toNat)
  else (num * Nat.pow 2 (-exponent).toNat, den)

/-- The least exponent of the format. -/
def leastExponent : Int := -1074

/-- The exponent at which a fraction has 53 bits, but no less than the least one. -/
def exponentOf (num den : Nat) : Int :=
  let guess : Int := (Nat.log2 num : Int) - (Nat.log2 den : Int) - 52
  let (n, d) := scale num den guess
  let exact := if n < d * Nat.pow 2 52 then guess - 1 else guess
  max exact leastExponent

/-- The number of the format nearest to a fraction with a positive denominator. -/
def ofFraction (negative : Bool) (num den : Nat) : Binary64 :=
  if num = 0 then finite negative 0 0
  else
    let e := exponentOf num den
    let (n, d) := scale num den e
    let q := roundDiv n d
    let (q, e) := if q = Nat.pow 2 53 then (Nat.pow 2 52, e + 1) else (q, e)
    if 972 ≤ e then infinite negative else finite negative q e

/-- The number of the format nearest to `digits * 10 ^ exponent`.  Exponents far outside the
format are settled without computing the power. -/
def ofDecimal (negative : Bool) (digits : Nat) (exponent : Int) : Binary64 :=
  let places : Int := (Number.digits digits).length
  if digits = 0 then finite negative 0 0
  else if 400 < exponent + places then infinite negative
  else if exponent + places < -400 then finite negative 0 0
  else if 0 ≤ exponent then ofFraction negative (digits * Nat.pow 10 exponent.toNat) 1
  else ofFraction negative digits (Nat.pow 10 (-exponent).toNat)

/-- The number of the format nearest to an integer. -/
def ofInt (i : Int) : Binary64 := ofFraction (i < 0) i.natAbs 1

/-! ## Parts -/

/-- The size of a finite number as a fraction. -/
def fraction (mantissa : Nat) (exponent : Int) : Nat × Nat :=
  if 0 ≤ exponent then (mantissa * Nat.pow 2 exponent.toNat, 1)
  else (mantissa, Nat.pow 2 (-exponent).toNat)

/-- Give a natural number the sign of a float. -/
def signed (negative : Bool) (n : Nat) : Int :=
  if negative then -(n : Int) else n

/-- The number without its fraction, and the fraction as numerator and denominator, both without
sign. -/
def split (mantissa : Nat) (exponent : Int) : Nat × Nat × Nat :=
  let (n, d) := fraction mantissa exponent
  (n / d, n % d, d)

/-- The integer part, toward zero. -/
def truncate? : Binary64 → Option Int
  | finite negative m e => some (signed negative (split m e).1)
  | _ => none

/-- The value of a number without fraction. -/
def integer? : Binary64 → Option Int
  | finite negative m e =>
    let (whole, part, _) := split m e
    if part = 0 then some (signed negative whole) else none
  | _ => none

/-- The nearest integer, ties to even, of a non-negative number. -/
def nearestNat : Binary64 → Nat
  | finite _ m e => let (n, d) := fraction m e; roundDiv n d
  | _ => 0

/-! ## Shortest text -/

/-- The decimal point position `k` of a positive fraction: `10 ^ (k - 1) ≤ n / d < 10 ^ k`. -/
def pointOf (n d : Nat) : Int :=
  let guess : Int := ((Number.digits n).length : Int) - (Number.digits d).length
  let below (k : Int) : Bool :=
    if 0 ≤ k then n < d * Nat.pow 10 k.toNat else n * Nat.pow 10 (-k).toNat < d
  if below guess then guess else guess + 1

/-- The digits of the nearest multiple of `10 ^ (point - places)` when it lies in the interval of
numbers that round to the given one. -/
def roundedTo (mantissa : Nat) (exponent point : Int) (places : Nat) : Option Nat :=
  let step := point - places
  -- everything is measured in quarters of a unit of the last binary place
  let (unit, grid) :=
    let two := exponent - 2
    (Nat.pow 2 two.toNat * Nat.pow 10 (-step).toNat, Nat.pow 2 (-two).toNat * Nat.pow 10 step.toNat)
  let value := 4 * mantissa * unit
  let low := if mantissa = Nat.pow 2 52 && leastExponent < exponent then value - unit
    else value - 2 * unit
  let high := value + 2 * unit
  let q := roundDiv value grid
  let point := q * grid
  let inside :=
    if mantissa % 2 = 0 then low ≤ point && point ≤ high else low < point && point < high
  if inside then some q else none

/-- The first hit among growing numbers of places. -/
def shortestFrom (mantissa : Nat) (exponent point : Int) (places : Nat) : Nat → Nat × Nat
  | 0 => (mantissa, places)
  | fuel + 1 =>
    match roundedTo mantissa exponent point places with
    | some q => (q, places)
    | none => shortestFrom mantissa exponent point (places + 1) fuel

/-- The fewest digits that read back, and the position of the decimal point before them. -/
def shortest (mantissa : Nat) (exponent : Int) : List Char × Int :=
  let (n, d) := fraction mantissa exponent
  let point := pointOf n d
  let (q, places) := shortestFrom mantissa exponent point 1 17
  let ds := Number.digits q
  let point := point + ((ds.length : Int) - places)
  ((ds.reverse.dropWhile (· == '0')).reverse, point)

/-- Digits with a point after `point` of them; positional from 0.0001 up to 10 to the 16th, with
an exponent of at least two digits outside. -/
def layout (ds : List Char) (point : Int) : List Char :=
  if point < -3 || 16 < point then
    let e := point - 1
    let exponent := (if e < 0 then ['-'] else ['+']) ++ Number.padded 2 e.natAbs
    match ds with
    | [d] => d :: 'e' :: exponent
    | d :: more => d :: '.' :: (more ++ 'e' :: exponent)
    | [] => []
  else if point ≤ 0 then
    '0' :: '.' :: (List.replicate (-point).toNat '0' ++ ds)
  else
    let whole := point.toNat
    if ds.length ≤ whole then ds ++ List.replicate (whole - ds.length) '0' ++ ['.', '0']
    else ds.take whole ++ '.' :: ds.drop whole

/-- The shortest text that reads back. -/
def text : Binary64 → String
  | nan => "NaN"
  | infinite negative => if negative then "-Infinity" else "Infinity"
  | finite negative m e =>
    let body := if m = 0 then ['0', '.', '0'] else
      let (ds, point) := shortest m e
      layout ds point
    String.ofList (if negative then '-' :: body else body)

end Binary64

end Accounts.Number
