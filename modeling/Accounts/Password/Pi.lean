/-!
# Places of pi

The binary places of pi after the point, as words of 32 bits.  The number is computed with
integers, from the arctangents of 1/5 and 1/239:

    pi / 4 = 4 arctan (1/5) - arctan (1/239)
-/

namespace Accounts.Password

/-- Add the terms of the series of the arctangent of `1 / x`, in units of `1 / power * x`.  The
odd number is the divisor of the next term; the flag tells whether that term is added. -/
def arctanTerms (x power odd : Nat) (add : Bool) (plus minus : Nat) : Nat :=
  if _ : power = 0 ∨ x < 2 then plus - minus
  else
    let term := power / odd
    arctanTerms x (power / (x * x)) (odd + 2) (!add)
      (if add then plus + term else plus) (if add then minus else minus + term)
termination_by power
decreasing_by
  have hp : 0 < power := by omega
  have hx : 2 ≤ x := by omega
  exact Nat.div_lt_self hp (Nat.lt_of_lt_of_le (by decide : 1 < 2 * 2) (Nat.mul_le_mul hx hx))

/-- The arctangent of `1 / x` in units of `1 / unit`. -/
def arctanInverse (unit x : Nat) : Nat := arctanTerms x (unit / x) 1 true 0 0

/-- Places that are computed beyond those that are used. -/
def guardBits : Nat := 64

/-- The first `bits` places of pi after the point. -/
def piPlaces (bits : Nat) : Nat :=
  let unit := Nat.pow 2 (bits + guardBits)
  4 * (4 * arctanInverse unit 5 - arctanInverse unit 239) / Nat.pow 2 guardBits
    % Nat.pow 2 bits

/-- The first `count` words of pi after the point. -/
def piWords (count : Nat) : List UInt32 :=
  let places := piPlaces (32 * count)
  (List.range count).map fun i => UInt32.ofNat (places >>> (32 * (count - 1 - i)))

end Accounts.Password
