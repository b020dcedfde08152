import Accounts.Text.Base64Url
import Mathlib.Data.List.TakeWhile

/-!
# Base 64, written and read back

Bytes are read back from their text, which has letters, digits, hyphens and underscores alone, so
neither padding nor the points between the parts of a token:

    decode? (encode bytes) = some bytes
-/

namespace Accounts.Text.Base64Url

/-! ## Six bits -/

theorem encodeSix_mod (n : Nat) : encodeSix (n % 64) = encodeSix n := by
  unfold encodeSix
  rw [Nat.mod_mod]

theorem decodeSix?_encodeSix_of_lt : ∀ n < 64, decodeSix? (encodeSix n) = some n := by decide

theorem decodeSix?_encodeSix (n : Nat) : decodeSix? (encodeSix n) = some (n % 64) := by
  rw [← encodeSix_mod]
  exact decodeSix?_encodeSix_of_lt _ (Nat.mod_lt _ (by decide))

/-- The groups of six bits of bytes, three bytes at a time. -/
def sixes : List UInt8 → List Nat
  | [] => []
  | [a] => [a.toNat / 4, a.toNat % 4 * 16]
  | [a, b] => [a.toNat / 4, a.toNat % 4 * 16 + b.toNat / 16, b.toNat % 16 * 4]
  | a :: b :: c :: rest =>
    a.toNat / 4 :: (a.toNat % 4 * 16 + b.toNat / 16) :: (b.toNat % 16 * 4 + c.toNat / 64)
      :: c.toNat % 64 :: sixes rest

theorem encode_eq_map (bytes : List UInt8) : encode bytes = (sixes bytes).map encodeSix := by
  induction bytes using encode.induct with
  | case1 => rfl
  | case2 a => rfl
  | case3 a b => rfl
  | case4 a b c rest ih => simp only [encode, sixes, List.map_cons, ih]

theorem sixes_lt (bytes : List UInt8) : ∀ n ∈ sixes bytes, n < 64 := by
  induction bytes using sixes.induct with
  | case1 => intro n hn; cases hn
  | case2 a =>
    intro n hn
    have ha := a.toNat_lt
    simp only [sixes, List.mem_cons, List.not_mem_nil, or_false] at hn
    omega
  | case3 a b =>
    intro n hn
    have ha := a.toNat_lt
    have hb := b.toNat_lt
    simp only [sixes, List.mem_cons, List.not_mem_nil, or_false] at hn
    omega
  | case4 a b c rest ih =>
    intro n hn
    have ha := a.toNat_lt
    have hb := b.toNat_lt
    have hc := c.toNat_lt
    simp only [sixes, List.mem_cons] at hn
    rcases hn with rfl | rfl | rfl | rfl | hn
    · omega
    · omega
    · omega
    · omega
    · exact ih n hn

theorem mapM_decodeSix? (bytes : List UInt8) :
    (encode bytes).mapM decodeSix? = some (sixes bytes) := by
  have hmap : ∀ ns : List Nat, (∀ n ∈ ns, n < 64) → (ns.map encodeSix).mapM decodeSix? = some ns := by
    intro ns hns
    induction ns with
    | nil => rfl
    | cons n ns ih =>
      have hn : n % 64 = n := Nat.mod_eq_of_lt (hns n List.mem_cons_self)
      rw [List.map_cons, List.mapM_cons, decodeSix?_encodeSix, hn,
        ih fun k hk => hns k (List.mem_cons_of_mem n hk)]
      rfl
  rw [encode_eq_map]
  exact hmap _ (sixes_lt bytes)

theorem ofNat_eq {a : UInt8} {n : Nat} (h : n = a.toNat) : UInt8.ofNat n = a := by
  rw [h, UInt8.ofNat_toNat]

/-- The groups of six bits are joined to the bytes again. -/
theorem joinSixes_sixes (bytes : List UInt8) : joinSixes (sixes bytes) = some bytes := by
  induction bytes using sixes.induct with
  | case1 => rfl
  | case2 a =>
    rw [sixes, joinSixes, if_pos (by omega), ofNat_eq (a := a) (by omega)]
  | case3 a b =>
    have hb := b.toNat_lt
    rw [sixes, joinSixes, if_pos (by omega), ofNat_eq (a := a) (by omega),
      ofNat_eq (a := b) (by omega)]
  | case4 a b c rest ih =>
    have hb := b.toNat_lt
    have hc := c.toNat_lt
    rw [sixes, joinSixes, ih, Option.map_some, ofNat_eq (a := a) (by omega),
      ofNat_eq (a := b) (by omega), ofNat_eq (a := c) (by omega)]

/-! ## Texts -/

/-- Characters that the texts do not have: padding and points. -/
theorem not_mem_encode {c : Char} (hc : decodeSix? c = none) (bytes : List UInt8) :
    c ∉ encode bytes := by
  intro h
  rw [encode_eq_map] at h
  obtain ⟨n, -, rfl⟩ := List.mem_map.1 h
  rw [decodeSix?_encodeSix] at hc
  cases hc

theorem unpad?_encode (bytes : List UInt8) : unpad? (encode bytes) = some (encode bytes) := by
  have hall : ∀ c ∈ encode bytes, (decide (c ≠ '=')) = true := by
    intro c hc
    rw [decide_eq_true_eq]
    rintro rfl
    exact not_mem_encode (by decide) bytes hc
  unfold unpad?
  simp only [List.takeWhile_eq_self_iff.2 hall, List.dropWhile_eq_nil_iff.2 hall, List.isEmpty_nil,
    if_true]

/-- Bytes are read back from their text. -/
theorem decode?_encode (bytes : List UInt8) : decode? (encode bytes) = some bytes := by
  unfold decode?
  rw [unpad?_encode, Option.bind_eq_bind, Option.bind_some, mapM_decodeSix?, Option.bind_eq_bind,
    Option.bind_some, joinSixes_sixes]

end Accounts.Text.Base64Url
