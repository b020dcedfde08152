import Accounts.Proofs.Text.Hex
import Accounts.Uuid.Lenient
import Mathlib.Data.List.TakeWhile
import Mathlib.Data.Option.Basic

/-!
# Identifiers, written and read back

Different identifiers have different texts, because an identifier is read back from its text, also by
the looser reading:

    read u.text      = .ok u
    readLoose u.text = .ok u
-/

namespace Accounts.Uuid

open Number Text

theorem ofNat_toNat (u : Uuid) : ofNat u.toNat = u := by
  rcases u with ⟨bits⟩
  show (⟨BitVec.ofNat 128 bits.toNat⟩ : Uuid) = ⟨bits⟩
  rw [BitVec.ofNat_toNat, BitVec.setWidth_eq]

/-- The groups between the hyphens of a text. -/
def groups (u : Uuid) : List (List Char) :=
  [hexPlaces 8 (u.toNat >>> 96), hexPlaces 4 (u.toNat >>> 80), hexPlaces 4 (u.toNat >>> 64),
    hexPlaces 4 (u.toNat >>> 48), hexPlaces 12 u.toNat]

theorem hyphen_not_mem_hexPlaces (count n : Nat) : '-' ∉ hexPlaces count n := by
  intro h
  exact absurd (hexPlaces_digits count n '-' h) (by decide)

theorem splitOn_chars (u : Uuid) : u.chars.splitOn '-' = u.groups := by
  unfold chars groups
  rw [List.splitOn_append_cons_self_of_not_mem (hyphen_not_mem_hexPlaces 8 _),
    List.splitOn_append_cons_self_of_not_mem (hyphen_not_mem_hexPlaces 4 _),
    List.splitOn_append_cons_self_of_not_mem (hyphen_not_mem_hexPlaces 4 _),
    List.splitOn_append_cons_self_of_not_mem (hyphen_not_mem_hexPlaces 4 _),
    List.splitOn_eq_singleton (hyphen_not_mem_hexPlaces 12 _)]

theorem groups_digits (u : Uuid) : ∀ c ∈ u.groups.flatten, (hexDigit? c).isSome := by
  intro c hc
  obtain ⟨group, hgroup, hc⟩ := List.mem_flatten.1 hc
  rcases List.mem_cons.1 hgroup with rfl | hgroup
  · exact hexPlaces_digits _ _ c hc
  rcases List.mem_cons.1 hgroup with rfl | hgroup
  · exact hexPlaces_digits _ _ c hc
  rcases List.mem_cons.1 hgroup with rfl | hgroup
  · exact hexPlaces_digits _ _ c hc
  rcases List.mem_cons.1 hgroup with rfl | hgroup
  · exact hexPlaces_digits _ _ c hc
  rcases List.mem_cons.1 hgroup with rfl | hgroup
  · exact hexPlaces_digits _ _ c hc
  · cases hgroup

theorem length_groups (u : Uuid) : u.groups.flatten.length = 32 := by
  simp [groups, length_hexPlaces]

/-- The groups together write the number of the identifier. -/
theorem hexValue_groups (u : Uuid) : hexValue u.groups.flatten = u.toNat := by
  have hlt : u.toNat < 2 ^ 128 := u.bits.isLt
  unfold groups
  simp only [List.flatten_cons, List.flatten_nil, List.append_nil, hexValue_append,
    hexValue_hexPlaces, List.length_append, length_hexPlaces, Nat.shiftRight_eq_div_pow]
  omega

theorem ofHex?_groups (u : Uuid) : ofHex? u.groups.flatten = some u := by
  have hall : u.groups.flatten.all (fun c => (hexDigit? c).isSome) = true :=
    List.all_eq_true.2 (groups_digits u)
  unfold ofHex?
  rw [if_pos ⟨length_groups u, hall⟩, hexValue_groups, ofNat_toNat]

theorem ofGroups?_chars (u : Uuid) : ofGroups? u.chars = some u := by
  unfold ofGroups?
  rw [splitOn_chars]
  have hlengths : u.groups.map List.length = groupLengths := by
    simp [groups, groupLengths, length_hexPlaces]
  dsimp only
  rw [if_pos hlengths, ofHex?_groups]

/-- The text starts with a digit. -/
theorem chars_eq_cons (u : Uuid) : ∃ c cs, u.chars = c :: cs ∧ (hexDigit? c).isSome := by
  rcases h : hexPlaces 8 (u.toNat >>> 96) with _ | ⟨c, cs⟩
  · have hlength := length_hexPlaces 8 (u.toNat >>> 96)
    rw [h] at hlength
    cases hlength
  · refine ⟨c, _, by rw [chars, h]; rfl, hexPlaces_digits 8 (u.toNat >>> 96) c ?_⟩
    rw [h]
    exact List.mem_cons_self

theorem ofChars?_chars (u : Uuid) : ofChars? u.chars = some u := by
  obtain ⟨c, cs, hchars, hdigit⟩ := u.chars_eq_cons
  have hbrace : unbraced? u.chars = none := by
    rw [hchars]
    unfold unbraced?
    split
    · rename_i heq
      cases heq
      exact absurd hdigit (by decide)
    · rfl
  have hurn : after? "urn:uuid:".toList u.chars = none := by
    have hne : 'u' ≠ c := by
      rintro rfl
      exact absurd hdigit (by decide)
    rw [hchars]
    show (if 'u' = c then _ else none) = none
    rw [if_neg hne]
  have hlength : u.chars.length = 36 := by
    simp [chars, length_hexPlaces]
  have hplain : ofHex? u.chars = none := by
    unfold ofHex?
    rw [if_neg (by omega)]
  unfold ofChars?
  rw [hbrace, hurn]
  dsimp only
  rw [hplain, Option.none_or, ofGroups?_chars]

/-- An identifier is read back from its text. -/
theorem read_text (u : Uuid) : read u.text = .ok u := by
  unfold read text
  rw [String.toList_ofList, ofChars?_chars]

theorem text_injective {u v : Uuid} (h : u.text = v.text) : u = v := by
  have hread := read_text u
  rw [h, read_text] at hread
  cases hread
  rfl

/-! ## Loose spelling -/

theorem removeAll_of_not_mem {c : Char} (word : List Char) {cs : List Char} (h : c ∉ cs) :
    removeAll (c :: word) 0 cs = cs := by
  induction cs with
  | nil => rfl
  | cons d ds ih =>
    rw [List.mem_cons, not_or] at h
    have hpre : (c :: word).isPrefixOf (d :: ds) = false := by
      rw [List.isPrefixOf_cons_cons, beq_eq_false_iff_ne.2 h.1, Bool.false_and]
    rw [removeAll, hpre, if_neg Bool.false_ne_true, ih h.2]

theorem trimList_of_none {p : Char → Bool} {cs : List Char} (h : ∀ c ∈ cs, p c = false) :
    trimList p cs = cs := by
  have hdrop : ∀ ds : List Char, (∀ c ∈ ds, p c = false) → ds.dropWhile p = ds := by
    intro ds hds
    rcases ds with _ | ⟨d, ds⟩
    · rfl
    · rw [List.dropWhile_cons, hds d List.mem_cons_self]
      rfl
  unfold trimList dropRightWhile
  rw [hdrop cs h, hdrop cs.reverse fun c hc => h c (List.mem_reverse.1 hc), List.reverse_reverse]

theorem chars_digits (u : Uuid) : ∀ c ∈ u.chars, c = '-' ∨ (hexDigit? c).isSome := by
  intro c hc
  simp only [chars, List.mem_append, List.mem_cons] at hc
  rcases hc with hc | rfl | hc | rfl | hc | rfl | hc | rfl | hc
  · exact .inr (hexPlaces_digits _ _ c hc)
  · exact .inl rfl
  · exact .inr (hexPlaces_digits _ _ c hc)
  · exact .inl rfl
  · exact .inr (hexPlaces_digits _ _ c hc)
  · exact .inl rfl
  · exact .inr (hexPlaces_digits _ _ c hc)
  · exact .inl rfl
  · exact .inr (hexPlaces_digits _ _ c hc)

theorem filter_chars (u : Uuid) : u.chars.filter (· ≠ '-') = u.groups.flatten := by
  have hkeep (count n : Nat) : (hexPlaces count n).filter (· ≠ '-') = hexPlaces count n := by
    rw [List.filter_eq_self]
    intro c hc
    rw [decide_eq_true_eq]
    rintro rfl
    exact hyphen_not_mem_hexPlaces count n hc
  have hdrop (cs : List Char) : ('-' :: cs).filter (· ≠ '-') = cs.filter (· ≠ '-') :=
    List.filter_cons_of_neg (by decide)
  simp only [chars, groups, List.filter_append, hkeep, hdrop, List.flatten_cons, List.flatten_nil,
    List.append_nil]

theorem looseDigits_chars (u : Uuid) : looseDigits u.chars = u.groups.flatten := by
  have hu : 'u' ∉ u.chars := by
    intro h
    exact absurd (u.chars_digits 'u' h) (by decide)
  have htrim : ∀ c ∈ u.chars, decide (c = '\x7b' ∨ c = '\x7d') = false := by
    intro c hc
    rw [decide_eq_false_iff_not]
    rintro (rfl | rfl) <;> exact absurd (u.chars_digits _ hc) (by decide)
  have hurn : removeAll "urn:".toList 0 u.chars = u.chars := removeAll_of_not_mem _ hu
  have huuid : removeAll "uuid:".toList 0 u.chars = u.chars := removeAll_of_not_mem _ hu
  have htrimmed : trimList (fun c => c = '\x7b' || c = '\x7d') u.chars = u.chars :=
    trimList_of_none fun c hc => by rw [← Bool.decide_or]; exact htrim c hc
  unfold looseDigits
  rw [hurn]
  dsimp only
  rw [huuid, htrimmed, filter_chars]

theorem foldlM_digitIn? {cs : List Char} (h : ∀ c ∈ cs, (hexDigit? c).isSome) (n : Nat) :
    cs.foldlM (fun n c => (digitIn? 16 c).map (16 * n + ·)) n =
      some (cs.foldl (fun n c => 16 * n + (hexDigit? c).getD 0) n) := by
  induction cs generalizing n with
  | nil => rfl
  | cons c cs ih =>
    obtain ⟨d, hd⟩ := Option.isSome_iff_exists.1 (h c List.mem_cons_self)
    have hdigit : digitIn? 16 c = some d := by
      unfold digitIn?
      rw [hd, Option.filter_some, if_pos (decide_eq_true (hexDigit?_eq_some hd).1)]
    rw [List.foldlM_cons, List.foldl_cons, hdigit, hd]
    exact ih (fun c' hc' => h c' (List.mem_cons_of_mem c hc')) _

theorem afterBaseMark_of_digits {cs : List Char} (h : ∀ c ∈ cs, (hexDigit? c).isSome) :
    afterBaseMark 16 cs = cs := by
  rw [afterBaseMark.eq_def]
  split
  · rename_i x rest
    have hx : ¬ (16 = 16 ∧ (x = 'x' ∨ x = 'X')) := by
      have hdigit := h x (List.mem_cons_of_mem _ List.mem_cons_self)
      rintro ⟨-, rfl | rfl⟩ <;> exact absurd hdigit (by decide)
    rw [if_neg hx]
  · rfl

/-- Digits in base 16 are read as the number that they write. -/
theorem readInteger?_digits {cs : List Char} (h : ∀ c ∈ cs, (hexDigit? c).isSome) (hne : cs ≠ []) :
    readInteger? 16 (String.ofList cs) = some (hexValue cs : Int) := by
  have hrange : ∀ c ∈ cs, 48 ≤ c.toNat ∧ c.toNat ≤ 102 := by
    intro c hc
    obtain ⟨d, hd⟩ := Option.isSome_iff_exists.1 (h c hc)
    exact (hexDigit?_eq_some hd).2
  have hascii : asciiForm? cs = some cs := by
    unfold asciiForm?
    rw [if_pos]
    rw [List.all_eq_true]
    intro c hc
    have := hrange c hc
    exact decide_eq_true (by omega)
  have htrim : trimList isAsciiSpace cs = cs := by
    refine trimList_of_none fun c hc => ?_
    have := hrange c hc
    have hspace : c ≠ ' ' := by
      rintro rfl
      exact absurd (h _ hc) (by decide)
    simp only [isAsciiSpace, hspace, decide_false, Bool.or_false, Bool.and_eq_false_iff,
      decide_eq_false_iff_not]
    omega
  have hsplit : cs.splitOn '_' = [cs] :=
    List.splitOn_eq_singleton fun hmem => absurd (h _ hmem) (by decide)
  have hdigits : digitsIn? 16 cs = some (hexValue cs) := by
    unfold digitsIn?
    rw [hsplit]
    simp only [List.any_cons, List.any_nil, Bool.or_false, List.isEmpty_iff, hne, if_false,
      List.flatten_cons, List.flatten_nil, List.append_nil]
    exact foldlM_digitIn? h 0
  have hminus : ∀ rest, cs = '-' :: rest → False := by
    rintro rest rfl
    exact absurd (h '-' List.mem_cons_self) (by decide)
  have hplus : ∀ rest, cs = '+' :: rest → False := by
    rintro rest rfl
    exact absurd (h '+' List.mem_cons_self) (by decide)
  unfold readInteger?
  rw [String.toList_ofList, hascii, Option.bind_eq_bind, Option.bind_some, htrim]
  dsimp only
  split
  · exact (hminus _ rfl).elim
  · exact (hplus _ rfl).elim
  · show (Option.bind (digitsIn? 16 (afterBaseMark 16 cs)) fun n => some (n : Int)) = _
    rw [afterBaseMark_of_digits h, hdigits]
    rfl

/-- An identifier is read back from its text by the looser reading too. -/
theorem readLoose_text (u : Uuid) : readLoose u.text = .ok u := by
  have hne : u.groups.flatten ≠ [] := by
    intro h
    have hlength := u.length_groups
    rw [h] at hlength
    cases hlength
  unfold readLoose text
  rw [String.toList_ofList, looseDigits_chars]
  dsimp only
  rw [if_neg (by rw [length_groups]; decide), readInteger?_digits u.groups_digits hne, hexValue_groups]
  show Except.ok (ofNat u.toNat) = _
  rw [ofNat_toNat]

end Accounts.Uuid
