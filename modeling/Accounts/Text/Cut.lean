/-!
# Cutting texts in two

A text is cut at the first or the last place of a mark, or behind a given text in front of it.

    cut? '=' "name=a=b"     = ("name", "a=b")
    cutLast? '=' "name=a=b" = ("name=a", "b")
    after? "name" "name=a"  = "=a"
-/

namespace Accounts.Text

/-! ## Algorithm -/

/-- The text before the first mark and the text after it. -/
def cut? (mark : Char) : List Char → Option (List Char × List Char)
  | [] => none
  | c :: cs =>
    if c = mark then some ([], cs) else (cut? mark cs).map fun p => (c :: p.1, p.2)

/-- The text before the last mark and the text after it. -/
def cutLast? (mark : Char) (cs : List Char) : Option (List Char × List Char) :=
  (cut? mark cs.reverse).map fun p => (p.2.reverse, p.1.reverse)

/-- The text behind a given one. -/
def after? : List Char → List Char → Option (List Char)
  | [], cs => some cs
  | p :: ps, c :: cs => if p = c then after? ps cs else none
  | _ :: _, [] => none

/-! ## Lemmas -/

theorem cut?_eq_some_iff {mark : Char} {cs before rest : List Char} :
    cut? mark cs = some (before, rest) ↔ cs = before ++ mark :: rest ∧ mark ∉ before := by
  induction cs generalizing before with
  | nil => simp [cut?]
  | cons c cs ih =>
    by_cases h : c = mark
    · subst h
      cases before with
      | nil => simp [cut?, eq_comm]
      | cons b before => simp only [cut?, if_pos, Option.some.injEq, Prod.mk.injEq]; grind
    · cases before with
      | nil => simp [cut?, h]
      | cons b before =>
        simp only [cut?, if_neg h, Option.map_eq_some_iff, Prod.mk.injEq, Prod.exists]
        grind

theorem cutLast?_eq_some_iff {mark : Char} {cs before rest : List Char} :
    cutLast? mark cs = some (before, rest) ↔ cs = before ++ mark :: rest ∧ mark ∉ rest := by
  simp only [cutLast?, Option.map_eq_some_iff, Prod.exists, Prod.mk.injEq]
  constructor
  · rintro ⟨a, b, h, rfl, rfl⟩
    obtain ⟨e, hn⟩ := cut?_eq_some_iff.1 h
    exact ⟨by simpa using congrArg List.reverse e, by simpa using hn⟩
  · rintro ⟨e, hn⟩
    exact ⟨rest.reverse, before.reverse, cut?_eq_some_iff.2 ⟨by simp [e], by simpa using hn⟩,
      by simp, by simp⟩

theorem after?_eq_some_iff {p cs rest : List Char} :
    after? p cs = some rest ↔ cs = p ++ rest := by
  induction p generalizing cs with
  | nil => simp [after?]
  | cons a p ih => cases cs <;> grind [after?]

end Accounts.Text
