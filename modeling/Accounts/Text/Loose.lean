/-!
# Texts that may be broken

A text that a request brings may hold unpaired surrogates.  It has a length, it can be trimmed and
put in lowercase, but it has no bytes: no encoding takes it, and so no hash and no column does.

    whole ⟨"a", true⟩ = .ok "a"      whole ⟨"\ufffd", false⟩ = .error .surrogate
-/

namespace Accounts

/-- Why a text cannot be encoded. -/
inductive EncodingFault where
  | surrogate
  deriving DecidableEq, Repr

/-- The wording of a fault. -/
def EncodingFault.message : EncodingFault → String
  | surrogate => "surrogates not allowed"

/-- A text that may hold unpaired surrogates. -/
structure LooseText where
  /-- The characters, with a replacement character for each unpaired surrogate: both are one
  character, are no blank and have no lowercase. -/
  chars : String
  /-- No surrogate is unpaired. -/
  isWhole : Bool := true
  deriving DecidableEq

namespace LooseText

instance : Coe String LooseText := ⟨fun s => { chars := s }⟩

/-- The text as one that can be encoded. -/
def whole (t : LooseText) : Except EncodingFault String :=
  if t.isWhole then .ok t.chars else .error .surrogate

/-- The text with other characters. -/
def map (f : String → String) (t : LooseText) : LooseText := { t with chars := f t.chars }

/-! ## Lemmas -/

@[simp] theorem isWhole_map (f : String → String) (t : LooseText) :
    (t.map f).isWhole = t.isWhole := rfl

theorem map_coe (f : String → String) (s : String) : map f s = (f s : LooseText) := rfl

/-- A function that settles every text at once settles texts that may be broken. -/
theorem map_map_of_fixed {f : String → String} (hf : ∀ s, f (f s) = f s) (t : LooseText) :
    (t.map f).map f = t.map f := by
  unfold map
  rw [hf]

theorem whole_of_isWhole {t : LooseText} (h : t.isWhole = true) : t.whole = .ok t.chars := if_pos h

theorem whole_eq_ok_iff {t : LooseText} {s : String} :
    t.whole = .ok s ↔ t.isWhole = true ∧ t.chars = s := by
  unfold whole
  split
  · rename_i h
    exact ⟨fun hs => ⟨h, Except.ok.inj hs⟩, fun hs => congrArg _ hs.2⟩
  · rename_i h
    exact ⟨fun hs => (by cases hs), fun hs => absurd hs.1 h⟩

/-- A whole text is its characters. -/
theorem eq_coe_of_isWhole {t : LooseText} (h : t.isWhole = true) : t = (t.chars : LooseText) := by
  cases t
  cases h
  rfl

end LooseText

end Accounts
