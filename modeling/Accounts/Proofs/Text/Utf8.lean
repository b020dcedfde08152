import Accounts.Text.Utf8

/-!
# UTF-8, written and read back

Every text is read back from its bytes, one character after the other:

    ofUtf8? (utf8 cs) = some cs
-/

namespace Accounts.Text

/-! ## Bytes -/

theorem toNat_ofNat_of_lt {n : Nat} (h : n < 256) : (UInt8.ofNat n).toNat = n := by
  rw [UInt8.toNat_ofNat', Nat.mod_eq_of_lt h]

theorem continuation?_ofNat {n : Nat} (h : n < 64) :
    continuation? (UInt8.ofNat (n + 0x80)) = some n := by
  unfold continuation?
  rw [toNat_ofNat_of_lt (show n + 0x80 < 256 by omega), if_pos ⟨by omega, by omega⟩,
    Nat.add_sub_cancel]

theorem charFrom?_toNat {bound n : Nat} {c : Char} (hn : n = c.toNat) (h : bound ≤ c.toNat) :
    charFrom? bound n = some c := by
  subst hn
  have hvalid : c.toNat.isValidChar := c.valid
  have hchar : Char.ofNat c.toNat = Char.ofNatAux c.toNat hvalid := dif_pos hvalid
  unfold charFrom?
  rw [dif_pos hvalid, if_pos h, ← hchar, Char.ofNat_toNat]

/-! ## Reading by the first byte -/

variable {a b c d : UInt8} {rest : List UInt8}

theorem ofUtf8?_one (h : a.toNat < 0x80) :
    ofUtf8? (a :: rest) = prepend (some (Char.ofNat a.toNat)) (ofUtf8? rest) := by
  rw [ofUtf8?.eq_def]
  exact if_pos h

theorem ofUtf8?_two (h : 0xC0 ≤ a.toNat) (h' : a.toNat < 0xE0) :
    ofUtf8? (a :: b :: rest) = prepend (twoBytes? a b) (ofUtf8? rest) := by
  rw [ofUtf8?.eq_def]
  dsimp only
  rw [if_neg (by omega), if_neg (by omega), if_pos h']

theorem ofUtf8?_three (h : 0xE0 ≤ a.toNat) (h' : a.toNat < 0xF0) :
    ofUtf8? (a :: b :: c :: rest) = prepend (threeBytes? a b c) (ofUtf8? rest) := by
  rw [ofUtf8?.eq_def]
  dsimp only
  rw [if_neg (by omega), if_neg (by omega), if_neg (by omega), if_pos h']

theorem ofUtf8?_four (h : 0xF0 ≤ a.toNat) (h' : a.toNat < 0xF8) :
    ofUtf8? (a :: b :: c :: d :: rest) = prepend (fourBytes? a b c d) (ofUtf8? rest) := by
  rw [ofUtf8?.eq_def]
  dsimp only
  rw [if_neg (by omega), if_neg (by omega), if_neg (by omega), if_neg (by omega), if_pos h']

/-! ## Texts -/

/-- A character is read from the front of the bytes that start with it. -/
theorem ofUtf8?_char (c : Char) (rest : List UInt8) :
    ofUtf8? (String.utf8EncodeChar c ++ rest) = prepend (some c) (ofUtf8? rest) := by
  have hmax : c.toNat < 0x110000 := by
    have hvalid : c.toNat.isValidChar := c.valid
    unfold Nat.isValidChar at hvalid
    omega
  unfold String.utf8EncodeChar
  rw [show c.val.toNat = c.toNat from rfl]
  dsimp only
  generalize hn : c.toNat = n
  rw [hn] at hmax
  split
  · have hone : (UInt8.ofNat n).toNat = n := toNat_ofNat_of_lt (by omega)
    rw [List.cons_append, List.nil_append, ofUtf8?_one (by omega), hone, ← hn, Char.ofNat_toNat]
  split
  · have hfirst : (UInt8.ofNat (n / 64 % 32 + 0xC0)).toNat = n / 64 % 32 + 0xC0 :=
      toNat_ofNat_of_lt (by omega)
    have hchar : twoBytes? (UInt8.ofNat (n / 64 % 32 + 0xC0)) (UInt8.ofNat (n % 64 + 0x80)) =
        some c := by
      unfold twoBytes?
      rw [continuation?_ofNat (by omega), hfirst]
      exact charFrom?_toNat (by omega) (by omega)
    simp only [List.cons_append, List.nil_append]
    rw [ofUtf8?_two (by omega) (by omega), hchar]
  split
  · have hfirst : (UInt8.ofNat (n / 4096 % 16 + 0xE0)).toNat = n / 4096 % 16 + 0xE0 :=
      toNat_ofNat_of_lt (by omega)
    have hchar : threeBytes? (UInt8.ofNat (n / 4096 % 16 + 0xE0))
        (UInt8.ofNat (n / 64 % 64 + 0x80)) (UInt8.ofNat (n % 64 + 0x80)) = some c := by
      unfold threeBytes?
      rw [continuation?_ofNat (by omega), continuation?_ofNat (by omega), hfirst]
      exact charFrom?_toNat (by omega) (by omega)
    simp only [List.cons_append, List.nil_append]
    rw [ofUtf8?_three (by omega) (by omega), hchar]
  · have hfirst : (UInt8.ofNat (n / 262144 % 8 + 0xF0)).toNat = n / 262144 % 8 + 0xF0 :=
      toNat_ofNat_of_lt (by omega)
    have hchar : fourBytes? (UInt8.ofNat (n / 262144 % 8 + 0xF0))
        (UInt8.ofNat (n / 4096 % 64 + 0x80)) (UInt8.ofNat (n / 64 % 64 + 0x80))
        (UInt8.ofNat (n % 64 + 0x80)) = some c := by
      unfold fourBytes?
      rw [continuation?_ofNat (by omega), continuation?_ofNat (by omega),
        continuation?_ofNat (by omega), hfirst]
      exact charFrom?_toNat (by omega) (by omega)
    simp only [List.cons_append, List.nil_append]
    rw [ofUtf8?_four (by omega) (by omega), hchar]

/-- A text is read from the front of the bytes that start with it. -/
theorem ofUtf8?_utf8_append (cs : List Char) (rest : List UInt8) :
    ofUtf8? (utf8 cs ++ rest) = (ofUtf8? rest).map (cs ++ ·) := by
  induction cs with
  | nil => exact Option.map_id'.symm
  | cons c cs ih =>
    rw [show utf8 (c :: cs) = String.utf8EncodeChar c ++ utf8 cs from rfl, List.append_assoc,
      ofUtf8?_char, ih]
    cases ofUtf8? rest <;> rfl

/-- A text is read back from its bytes. -/
theorem ofUtf8?_utf8 (cs : List Char) : ofUtf8? (utf8 cs) = some cs := by
  have happend : ofUtf8? (utf8 cs ++ []) = some (cs ++ []) := ofUtf8?_utf8_append cs []
  rwa [List.append_nil, List.append_nil] at happend

/-- A text whose bytes start with those of another starts with it. -/
theorem prefix_of_utf8 {cs ds : List Char} (h : utf8 cs <+: utf8 ds) : cs <+: ds := by
  obtain ⟨rest, hrest⟩ := h
  have hread : (ofUtf8? rest).map (cs ++ ·) = some ds := by
    rw [← ofUtf8?_utf8_append, hrest, ofUtf8?_utf8]
  obtain ⟨tail, -, htail⟩ := Option.map_eq_some_iff.1 hread
  exact ⟨tail, htail⟩

theorem utf8_append (cs ds : List Char) : utf8 (cs ++ ds) = utf8 cs ++ utf8 ds :=
  List.flatMap_append

theorem bytesOf_append (s t : String) : bytesOf (s ++ t) = bytesOf s ++ bytesOf t := by
  unfold bytesOf
  rw [String.toList_append, utf8_append]

theorem bytesOf_injective : Function.Injective bytesOf := by
  intro s t h
  have hchars : some s.toList = some t.toList := by
    rw [← ofUtf8?_utf8, ← ofUtf8?_utf8]
    exact congrArg ofUtf8? h
  exact String.toList_inj.1 (Option.some.inj hchars)

end Accounts.Text
