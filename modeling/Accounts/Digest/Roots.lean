/-!
# Digits of roots

The first binary places of the square and cube roots of primes, which serve as numbers that
nobody chose.

    rootBits 2 32 2 = 0x6A09E667   -- the first 32 places of the square root of two
-/

namespace Accounts.Digest

/-- A number with no divisor from 2 on below itself. -/
def isPrime (n : Nat) : Bool :=
  2 ≤ n && (List.range n).all fun d => d < 2 || n % d != 0

/-- The primes below a bound. -/
def primesBelow (bound : Nat) : List Nat := (List.range bound).filter isPrime

/-- The largest number of so many bits whose power does not exceed `n`, built from its first
bit on. -/
def powerRoot (power n : Nat) : Nat → Nat → Nat
  | 0, root => root
  | bits + 1, root =>
    let next := root + Nat.pow 2 bits
    powerRoot power n bits (if Nat.pow next power ≤ n then next else root)

/-- The first `places` binary places of a root of `n`. -/
def rootBits (power places n : Nat) : Nat :=
  powerRoot power (n * Nat.pow 2 (power * places)) (places + 8) 0 % Nat.pow 2 places

end Accounts.Digest
