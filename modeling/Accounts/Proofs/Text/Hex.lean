import Accounts.Text.Ranges
import Mathlib.Algebra.Group.Nat.Defs

/-!
# Hexadecimal places, written and read back

    hexValue (hexPlaces count n) = n % 16 ^ count
-/

namespace Accounts.Text

/-- The characters that are digits, and their values. -/
theorem hexDigit?_eq_some {c : Char} {d : Nat} (h : hexDigit? c = some d) :
    d < 16 ∧ 48 ≤ c.toNat ∧ c.toNat ≤ 102 := by
  unfold hexDigit? at h
  simp only [Bool.and_eq_true, decide_eq_true_eq] at h
  split at h
  · cases h
    omega
  split at h
  · cases h
    omega
  split at h
  · cases h
    omega
  · cases h

theorem hexDigit?_hexChar_of_lt : ∀ d < 16, hexDigit? (hexChar d) = some d := by decide

theorem hexChar_mod (n : Nat) : hexChar (n % 16) = hexChar n := by
  unfold hexChar
  rw [Nat.mod_mod]

theorem hexDigit?_hexChar (n : Nat) : hexDigit? (hexChar n) = some (n % 16) := by
  rw [← hexChar_mod]
  exact hexDigit?_hexChar_of_lt _ (by omega)

theorem length_hexPlaces (count n : Nat) : (hexPlaces count n).length = count := by
  induction count generalizing n with
  | zero => rfl
  | succ count ih => rw [hexPlaces, List.length_append, ih, List.length_singleton]

theorem hexPlaces_digits (count n : Nat) : ∀ c ∈ hexPlaces count n, (hexDigit? c).isSome := by
  induction count generalizing n with
  | zero => intro c hc; cases hc
  | succ count ih =>
    intro c hc
    rw [hexPlaces, List.mem_append, List.mem_singleton] at hc
    rcases hc with hc | rfl
    · exact ih _ c hc
    · rw [hexDigit?_hexChar]
      rfl

theorem foldl_hexValue (cs : List Char) (n : Nat) :
    cs.foldl (fun n c => 16 * n + (hexDigit? c).getD 0) n = n * 16 ^ cs.length + hexValue cs := by
  induction cs generalizing n with
  | nil =>
    rw [List.length_nil, Nat.pow_zero, Nat.mul_one]
    rfl
  | cons c cs ih =>
    have hstart := ih ((hexDigit? c).getD 0)
    unfold hexValue
    rw [List.foldl_cons, List.foldl_cons, ih, Nat.mul_zero, Nat.zero_add, hstart, List.length_cons,
      Nat.pow_succ, Nat.add_mul, Nat.add_assoc, Nat.mul_comm 16 n, Nat.mul_assoc,
      Nat.mul_comm 16 (16 ^ cs.length)]

theorem hexValue_append (xs ys : List Char) :
    hexValue (xs ++ ys) = hexValue xs * 16 ^ ys.length + hexValue ys := by
  rw [← foldl_hexValue, hexValue, List.foldl_append]
  rfl

theorem hexValue_hexPlaces (count n : Nat) : hexValue (hexPlaces count n) = n % 16 ^ count := by
  induction count generalizing n with
  | zero => rw [Nat.pow_zero, Nat.mod_one]; rfl
  | succ count ih =>
    have hlast : hexValue [hexChar n] = n % 16 := by
      show 16 * 0 + (hexDigit? (hexChar n)).getD 0 = n % 16
      rw [hexDigit?_hexChar, Option.getD_some, Nat.mul_zero, Nat.zero_add]
    rw [hexPlaces, hexValue_append, ih, hlast, List.length_singleton, Nat.pow_one, Nat.pow_succ',
      Nat.mod_mul]
    omega

end Accounts.Text
