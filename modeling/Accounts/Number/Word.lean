/-!
# Words

The integers that a word of a number of bits holds: with a sign, from `-2^(bits-1)` on and below
`2^(bits-1)`.
-/

namespace Accounts.Number

/-! ## Algorithm -/

/-- The least integer of a word. -/
def wordMin (bits : Nat) : Int := -(Nat.pow 2 (bits - 1) : Nat)

/-- The greatest integer of a word. -/
def wordMax (bits : Nat) : Int := (Nat.pow 2 (bits - 1) : Nat) - 1

/-- An integer fits a word. -/
def fitsWord (bits : Nat) (n : Int) : Bool := wordMin bits ≤ n && n ≤ wordMax bits

/-- An integer moved to the nearest one that fits a word. -/
def clampWord (bits : Nat) (n : Int) : Int := max (wordMin bits) (min n (wordMax bits))

/-! ## Lemmas -/

theorem fitsWord_iff {bits : Nat} {n : Int} :
    fitsWord bits n = true ↔ wordMin bits ≤ n ∧ n ≤ wordMax bits := by
  simp [fitsWord]

end Accounts.Number
