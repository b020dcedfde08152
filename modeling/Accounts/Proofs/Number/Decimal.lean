import Accounts.Number.Decimal
import Mathlib.Algebra.Group.Nat.Defs

/-!
# Decimal numerals, written and read back

A number is read back from its digits, also when zeros fill them up to a width:

    ofDigits? (digits n) = some n
    (padded width n).length = width      for n below 10 ^ width
-/

namespace Accounts.Number

/-! ## Digits -/

theorem digit?_digitChar : ∀ d < 10, digit? (digitChar d) = some d := by decide

theorem digitChar_mod (n : Nat) : digitChar (n % 10) = digitChar n := by
  unfold digitChar
  rw [Nat.mod_mod]

theorem digit?_digitChar_mod (n : Nat) : digit? (digitChar n) = some (n % 10) := by
  rw [← digitChar_mod]
  exact digit?_digitChar _ (by omega)

theorem isDigit_digitChar (n : Nat) : isDigit (digitChar n) = true := by
  rw [isDigit, digit?_digitChar_mod]
  rfl

theorem digits_ne_nil (n : Nat) : digits n ≠ [] := by
  rw [digits]
  split <;> simp

theorem all_isDigit_digits (n : Nat) : ∀ c ∈ digits n, isDigit c = true := by
  induction n using digits.induct with
  | case1 n h =>
    intro c hc
    rw [digits, if_pos h, List.mem_singleton] at hc
    rw [hc, isDigit_digitChar]
  | case2 n h ih =>
    intro c hc
    rw [digits, if_neg h, List.mem_append, List.mem_singleton] at hc
    rcases hc with hc | rfl
    · exact ih c hc
    · exact isDigit_digitChar n

/-- A number that is not zero does not start with a zero. -/
theorem head_digits {n : Nat} (hn : n ≠ 0) : (digits n).head? ≠ some '0' := by
  induction n using digits.induct with
  | case1 n h =>
    have hall : ∀ d < 10, d ≠ 0 → digitChar d ≠ '0' := by decide
    rw [digits, if_pos h, List.head?_cons]
    intro heq
    exact hall n h hn (Option.some.inj heq)
  | case2 n h ih =>
    rw [digits, if_neg h, List.head?_append]
    intro heq
    rcases hd : (digits (n / 10)).head? with _ | c
    · exact digits_ne_nil _ (List.head?_eq_none_iff.1 hd)
    · rw [hd, Option.some_or] at heq
      exact ih (by omega) (hd.trans heq)

theorem length_digits_le {n width : Nat} (hw : 0 < width) (h : n < 10 ^ width) :
    (digits n).length ≤ width := by
  induction n using digits.induct generalizing width with
  | case1 n hn =>
    rw [digits, if_pos hn]
    exact hw
  | case2 n hn ih =>
    rw [digits, if_neg hn, List.length_append, List.length_singleton]
    obtain ⟨k, rfl⟩ : ∃ k, width = k + 1 := ⟨width - 1, by omega⟩
    have hpow : 10 ^ (k + 1) = 10 ^ k * 10 := Nat.pow_succ 10 k
    have hk : 0 < k := by
      rcases Nat.eq_zero_or_pos k with rfl | hk
      · simp only [Nat.zero_add, Nat.pow_one] at h
        omega
      · exact hk
    have := ih hk (by omega)
    omega

theorem length_padded {n width : Nat} (hw : 0 < width) (h : n < 10 ^ width) :
    (padded width n).length = width := by
  have := length_digits_le hw h
  unfold padded
  rw [List.length_append, List.length_replicate]
  omega

/-! ## Reading back -/

theorem readDigits_append (value : Nat) (xs ys : List Char) :
    readDigits value (xs ++ ys) = (readDigits value xs).bind fun v => readDigits v ys := by
  induction xs generalizing value with
  | nil => rfl
  | cons x xs ih =>
    rw [List.cons_append, readDigits, readDigits]
    rcases digit? x with _ | d
    · rfl
    · exact ih _

theorem readDigits_digits (value n : Nat) :
    readDigits value (digits n) = some (value * 10 ^ (digits n).length + n) := by
  induction n using digits.induct with
  | case1 n h =>
    rw [digits, if_pos h, readDigits, digit?_digitChar n h]
    show some _ = some _
    congr 1
    rw [List.length_singleton]
    omega
  | case2 n h ih =>
    rw [digits, if_neg h, readDigits_append, ih, Option.bind_some, readDigits, digit?_digitChar_mod]
    show some _ = some _
    congr 1
    rw [List.length_append, List.length_singleton, Nat.pow_succ, ← Nat.mul_assoc]
    omega

theorem ofDigits?_eq_readDigits {cs : List Char} (h : cs ≠ []) : ofDigits? cs = readDigits 0 cs := by
  cases cs with
  | nil => exact absurd rfl h
  | cons c cs => rfl

theorem ofDigits?_digits (n : Nat) : ofDigits? (digits n) = some n := by
  rw [ofDigits?_eq_readDigits (digits_ne_nil n), readDigits_digits, Nat.zero_mul, Nat.zero_add]

theorem readDigits_zeros (k : Nat) : readDigits 0 (List.replicate k '0') = some 0 := by
  induction k with
  | zero => rfl
  | succ k ih =>
    show readDigits 0 ('0' :: List.replicate k '0') = some 0
    exact ih

theorem readDigits_padded (width n : Nat) : readDigits 0 (padded width n) = some n := by
  unfold padded
  rw [readDigits_append, readDigits_zeros, Option.bind_some, readDigits_digits, Nat.zero_mul,
    Nat.zero_add]

theorem padded_ne_nil (width n : Nat) : padded width n ≠ [] := by
  unfold padded
  intro h
  exact digits_ne_nil n (List.append_eq_nil_iff.1 h).2

theorem all_isDigit_padded (width n : Nat) : ∀ c ∈ padded width n, isDigit c = true := by
  intro c hc
  rcases List.mem_append.1 hc with hc | hc
  · rw [List.eq_of_mem_replicate hc]
    decide
  · exact all_isDigit_digits n c hc

/-! ## Digits before other text -/

/-- A text does not go on with a digit. -/
def EndsDigits (rest : List Char) : Prop := ∀ c, rest.head? = some c → isDigit c = false

theorem takeWhile_isDigit {ds rest : List Char} (hd : ∀ c ∈ ds, isDigit c = true)
    (hr : EndsDigits rest) : (ds ++ rest).takeWhile isDigit = ds := by
  rw [List.takeWhile_append_of_pos hd]
  cases rest with
  | nil => simp
  | cons c rest => simp [hr c rfl]

theorem dropWhile_isDigit {ds rest : List Char} (hd : ∀ c ∈ ds, isDigit c = true)
    (hr : EndsDigits rest) : (ds ++ rest).dropWhile isDigit = rest := by
  rw [List.dropWhile_append_of_pos hd]
  cases rest with
  | nil => rfl
  | cons c rest => rw [List.dropWhile_cons, hr c rfl]; rfl

end Accounts.Number
