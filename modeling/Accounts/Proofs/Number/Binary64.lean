import Accounts.Calendar.Reader
import Mathlib.Data.Rat.Floor
import Mathlib.Tactic.Linarith
import Mathlib.Tactic.NormNum
import Mathlib.Tactic.Positivity
import Mathlib.Tactic.Ring

/-!
# The values of binary floating point numbers

A finite number stands for a rational, its mantissa times a power of two.  The integer part of a
number is that of its value, a fraction is rounded to half a unit of the last place at most, and the
instant of a number of seconds is off by less than a microsecond:

    x.value? = some v   ->   x.truncate? = some (truncated v)
    instantOfFloat? x = some t   ->   x.value? = some v  with  |t - v * second| < 1
-/

namespace Accounts

namespace Number

/-- The integer part of a rational, toward zero. -/
def truncated (x : ℚ) : Int := if x < 0 then ⌈x⌉ else ⌊x⌋

theorem truncated_intCast (n : Int) : truncated n = n := by
  unfold truncated
  rw [Int.ceil_intCast, Int.floor_intCast, ite_self]

namespace Binary64

/-! ## Values -/

/-- A mantissa times a power of two. -/
def magnitude (mantissa : Nat) (exponent : Int) : ℚ := mantissa * (2 : ℚ) ^ exponent

/-- The value of a finite number. -/
def value? : Binary64 → Option ℚ
  | finite negative m e => some (if negative then -magnitude m e else magnitude m e)
  | _ => none

variable {m n d : Nat} {e : Int}

theorem two_zpow_pos (e : Int) : (0 : ℚ) < (2 : ℚ) ^ e := zpow_pos (by norm_num) e

theorem magnitude_nonneg : 0 ≤ magnitude m e :=
  mul_nonneg (Nat.cast_nonneg m) (two_zpow_pos e).le

/-- The fraction of a mantissa and an exponent is their value. -/
theorem fraction_eq (m : Nat) (e : Int) : 0 < (fraction m e).2 ∧
    ((fraction m e).1 : ℚ) / (fraction m e).2 = magnitude m e := by
  unfold fraction magnitude
  by_cases h : 0 ≤ e
  · obtain ⟨k, rfl⟩ := Int.eq_ofNat_of_zero_le h
    rw [if_pos h]
    refine ⟨Nat.one_pos, ?_⟩
    simp
  · obtain ⟨k, hk⟩ := Int.eq_ofNat_of_zero_le (show 0 ≤ -e by omega)
    obtain rfl : e = -(k : Int) := by omega
    rw [if_neg h]
    refine ⟨Nat.pow_pos (by decide), ?_⟩
    simp [div_eq_mul_inv]

/-- The whole part of a number is the floor of its size, and its fraction is the rest. -/
theorem split_eq (m : Nat) (e : Int) : (split m e).1 = ⌊magnitude m e⌋ ∧
    (split m e).2.1 < (split m e).2.2 ∧
    (((split m e).1 : Nat) : ℚ) + ((split m e).2.1 : ℚ) / (split m e).2.2 = magnitude m e := by
  obtain ⟨hpos, hvalue⟩ := fraction_eq m e
  have hparts : ((fraction m e).2 : ℚ) * ((fraction m e).1 / (fraction m e).2 : Nat)
      + ((fraction m e).1 % (fraction m e).2 : Nat) = (fraction m e).1 := by
    exact_mod_cast Nat.div_add_mod (fraction m e).1 (fraction m e).2
  have hden : ((fraction m e).2 : ℚ) ≠ 0 := by
    exact_mod_cast hpos.ne'
  refine ⟨?_, Nat.mod_lt _ hpos, ?_⟩
  · rw [← hvalue]
    exact (Rat.floor_natCast_div_natCast _ _).symm
  · rw [← hvalue]
    show (((fraction m e).1 / (fraction m e).2 : Nat) : ℚ)
      + ((fraction m e).1 % (fraction m e).2 : Nat) / (fraction m e).2 = _
    rw [← hparts, add_div, mul_div_cancel_left₀ _ hden]

/-- The integer part of a number is that of its value. -/
theorem truncate?_eq (x : Binary64) : x.truncate? = x.value?.map truncated := by
  cases x with
  | nan => rfl
  | infinite negative => rfl
  | finite negative m e =>
    have hfloor := (split_eq m e).1
    cases negative with
    | false =>
      show some ((split m e).1 : Int) = some (truncated (magnitude m e))
      rw [truncated, if_neg (not_lt.2 magnitude_nonneg), hfloor]
    | true =>
      show some (-((split m e).1 : Int)) = some (truncated (-magnitude m e))
      rw [truncated, hfloor]
      by_cases h : -magnitude m e < 0
      · rw [if_pos h, Int.ceil_neg]
      · have hzero : magnitude m e = 0 := le_antisymm (by linarith) magnitude_nonneg
        rw [if_neg h, hzero]
        rfl

/-! ## Rounding -/

/-- Rounding a quotient is off by half a unit at most. -/
theorem roundDiv_near (n : Nat) (hd : 0 < d) : |(roundDiv n d : ℚ) - n / d| ≤ 1 / 2 := by
  have hnear : 2 * n ≤ 2 * (roundDiv n d * d) + d ∧ 2 * (roundDiv n d * d) ≤ 2 * n + d := by
    have hparts := Nat.div_add_mod' n d
    have hlt := Nat.mod_lt n hd
    unfold roundDiv
    dsimp only
    split
    · omega
    · split
      · rw [Nat.add_mul]
        omega
      · split
        · omega
        · rw [Nat.add_mul]
          omega
  have hpos : (0 : ℚ) < d := by exact_mod_cast hd
  have hlow : 2 * (n : ℚ) ≤ 2 * (roundDiv n d * d) + d := by exact_mod_cast hnear.1
  have hhigh : 2 * ((roundDiv n d : ℚ) * d) ≤ 2 * n + d := by exact_mod_cast hnear.2
  have hquotient : (n : ℚ) / d * d = n := div_mul_cancel₀ _ hpos.ne'
  rw [abs_le]
  constructor
  · by_contra hlt
    have := mul_lt_mul_of_pos_right (not_le.1 hlt) hpos
    linarith
  · by_contra hlt
    have := mul_lt_mul_of_pos_right (not_le.1 hlt) hpos
    linarith

/-- A scaled fraction is divided by the power of two. -/
theorem scale_eq (n : Nat) (hd : 0 < d) (e : Int) : 0 < (scale n d e).2 ∧
    ((scale n d e).1 : ℚ) / (scale n d e).2 * (2 : ℚ) ^ e = (n : ℚ) / d := by
  have hpos : (d : ℚ) ≠ 0 := by exact_mod_cast hd.ne'
  unfold scale
  by_cases h : 0 ≤ e
  · obtain ⟨k, rfl⟩ := Int.eq_ofNat_of_zero_le h
    rw [if_pos h]
    refine ⟨Nat.mul_pos hd (Nat.pow_pos (by decide)), ?_⟩
    have hpow : (2 : ℚ) ^ k ≠ 0 := by positivity
    simp only [Int.toNat_natCast, zpow_natCast, Nat.pow_eq, Nat.cast_mul,
      Nat.cast_pow, Nat.cast_ofNat]
    field_simp
  · obtain ⟨k, hk⟩ := Int.eq_ofNat_of_zero_le (show 0 ≤ -e by omega)
    obtain rfl : e = -(k : Int) := by omega
    rw [if_neg h]
    refine ⟨hd, ?_⟩
    have hpow : (2 : ℚ) ^ k ≠ 0 := by positivity
    simp only [neg_neg, Int.toNat_natCast, zpow_neg, zpow_natCast, Nat.pow_eq, Nat.cast_mul,
      Nat.cast_pow, Nat.cast_ofNat]
    field_simp

/-- A fraction below `2 ^ k` has 53 bits down to the exponent `k - 52`. -/
theorem exponentOf_le {k : Nat} (hn : n ≠ 0) (h : n < 2 ^ k * d) :
    exponentOf n d ≤ max ((k : Int) - 52) leastExponent := by
  have hd : d ≠ 0 := by
    rintro rfl
    omega
  have hlog : Nat.log2 n ≤ Nat.log2 d + k := by
    have hupper : d < 2 ^ (Nat.log2 d + 1) := Nat.lt_log2_self
    have hproduct : n < 2 ^ (Nat.log2 d + k + 1) := by
      calc n < 2 ^ k * d := h
        _ ≤ 2 ^ k * 2 ^ (Nat.log2 d + 1) := Nat.mul_le_mul_left _ hupper.le
        _ = 2 ^ (Nat.log2 d + k + 1) := by ring
    have := (Nat.log2_lt hn).2 hproduct
    omega
  unfold exponentOf
  dsimp only
  split
  · omega
  · omega

/-- A fraction that is not too large is rounded to the last place of its exponent. -/
theorem ofFraction_eq {num den q : Nat} (hn : n ≠ 0) (he : exponentOf n d = e)
    (hscale : scale n d e = (num, den)) (hq : roundDiv num den = q) (hsmall : e < 971) :
    ofFraction false n d = if q = Nat.pow 2 53 then finite false (Nat.pow 2 52) (e + 1)
      else finite false q e := by
  unfold ofFraction
  rw [if_neg hn, he]
  simp only [hscale, hq]
  by_cases hcarry : q = Nat.pow 2 53
  · rw [if_pos hcarry, if_pos hcarry]
    exact if_neg (by omega)
  · rw [if_neg hcarry, if_neg hcarry]
    exact if_neg (by omega)

/-- The number nearest to a fraction that is not too large is off by half a unit of its last
place. -/
theorem ofFraction_near {k : Nat} (hk : (k : Int) < 1000) (hd : 0 < d) (h : n < 2 ^ k * d) :
    ∃ m e, ofFraction false n d = finite false m e ∧
      |magnitude m e - n / d| ≤ (2 : ℚ) ^ max ((k : Int) - 52) leastExponent / 2 := by
  by_cases hn : n = 0
  · refine ⟨0, 0, if_pos hn, ?_⟩
    have hzero : magnitude 0 0 - (n : ℚ) / d = 0 := by
      simp [magnitude, hn]
    rw [hzero, abs_zero]
    exact div_nonneg (two_zpow_pos _).le (by norm_num)
  · obtain ⟨e, he⟩ : ∃ e, exponentOf n d = e := ⟨_, rfl⟩
    obtain ⟨⟨num, den⟩, hs⟩ : ∃ p, scale n d e = p := ⟨_, rfl⟩
    obtain ⟨q, hq⟩ : ∃ q, roundDiv num den = q := ⟨_, rfl⟩
    obtain ⟨hpos, hvalue⟩ := scale_eq n hd e
    rw [hs] at hpos hvalue
    dsimp only at hpos hvalue
    have hexp : e ≤ max ((k : Int) - 52) leastExponent := he ▸ exponentOf_le hn h
    have hsmall : e < 971 := by
      have : leastExponent = -1074 := rfl
      omega
    have hnear : |magnitude q e - n / d| ≤ (2 : ℚ) ^ max ((k : Int) - 52) leastExponent / 2 := by
      have hpow := two_zpow_pos e
      have hround : |(q : ℚ) - num / den| ≤ 1 / 2 := hq ▸ roundDiv_near num hpos
      calc |magnitude q e - n / d| = |(q : ℚ) - num / den| * (2 : ℚ) ^ e := by
            rw [← hvalue, magnitude, ← sub_mul, abs_mul, abs_of_pos hpow]
        _ ≤ 1 / 2 * (2 : ℚ) ^ e := mul_le_mul_of_nonneg_right hround hpow.le
        _ ≤ 1 / 2 * (2 : ℚ) ^ max ((k : Int) - 52) leastExponent :=
            mul_le_mul_of_nonneg_left (zpow_le_zpow_right₀ (by norm_num) hexp) (by norm_num)
        _ = (2 : ℚ) ^ max ((k : Int) - 52) leastExponent / 2 := by ring
    rw [ofFraction_eq hn he hs hq hsmall]
    by_cases hcarry : q = Nat.pow 2 53
    · refine ⟨Nat.pow 2 52, e + 1, if_pos hcarry, ?_⟩
      -- the carry doubles the unit and halves the mantissa
      have hhalf : (q : ℚ) = ((Nat.pow 2 52 : Nat) : ℚ) * 2 := by
        rw [hcarry]
        norm_num
      have hsame : magnitude (Nat.pow 2 52) (e + 1) = magnitude q e := by
        rw [magnitude, magnitude, hhalf, zpow_add₀ (by norm_num), zpow_one]
        ring
      rw [hsame]
      exact hnear
    · exact ⟨q, e, if_neg hcarry, hnear⟩

/-- Rounding a number to an integer is off by half at most. -/
theorem nearestNat_near (m : Nat) (e : Int) :
    |((finite false m e).nearestNat : ℚ) - magnitude m e| ≤ 1 / 2 := by
  obtain ⟨hpos, hvalue⟩ := fraction_eq m e
  rw [← hvalue]
  exact roundDiv_near _ hpos

end Binary64

end Number

/-! ## Instants -/

namespace Calendar

open Number

/-- The instant of a number of seconds is off by less than a microsecond. -/
theorem instantOfFloat?_near {x : Binary64} {t : Int} (h : instantOfFloat? x = some t) :
    ∃ v, x.value? = some v ∧ |(t : ℚ) - v * second| < 1 := by
  cases x with
  | nan => cases h
  | infinite negative => cases h
  | finite negative m e =>
    obtain ⟨-, hpart, hsum⟩ := Binary64.split_eq m e
    generalize hsplit : Binary64.split m e = parts at hpart hsum
    obtain ⟨whole, part, den⟩ := parts
    dsimp only at hpart hsum
    obtain ⟨m', e', hnumber, hnear⟩ := Binary64.ofFraction_near (k := 20) (n := part * 1000000)
      (d := den) (by decide) (by omega) (by omega)
    have hwhole := Binary64.nearestNat_near m' e'
    generalize hmicros : (Binary64.finite false m' e').nearestNat = micros at hwhole
    have ht : t = Binary64.signed negative (whole * 1000000 + micros) := by
      unfold instantOfFloat? at h
      dsimp only at h
      rw [hsplit] at h
      dsimp only at h
      rw [hnumber, hmicros] at h
      exact (Option.some.inj h).symm
    have hunit : (2 : ℚ) ^ max (((20 : Nat) : Int) - 52) Binary64.leastExponent / 2 < 1 / 2 := by
      rw [show max (((20 : Nat) : Int) - 52) Binary64.leastExponent = -32 by decide]
      norm_num
    have hclose : |((whole : ℚ) * 1000000 + micros) - Binary64.magnitude m e * 1000000| < 1 := by
      rw [Nat.cast_mul, Nat.cast_ofNat, mul_div_right_comm] at hnear
      rw [abs_le] at hnear hwhole
      rw [abs_lt, ← hsum]
      constructor <;> linarith [hnear.1, hnear.2, hwhole.1, hwhole.2]
    refine ⟨_, rfl, ?_⟩
    rw [ht, show (second : ℚ) = 1000000 by norm_num [second]]
    cases negative with
    | false =>
      simp only [Binary64.signed, Bool.false_eq_true, if_false]
      push_cast
      exact hclose
    | true =>
      simp only [Binary64.signed, if_true]
      push_cast
      rw [← abs_neg, neg_sub, neg_mul, sub_neg_eq_add, neg_add_eq_sub]
      exact hclose

end Calendar

end Accounts
