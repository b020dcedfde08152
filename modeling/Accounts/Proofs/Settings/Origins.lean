import Accounts.Proofs.Text.Fold
import Accounts.Settings.Basic
import Mathlib.Data.List.Basic

/-!
# Lists of origins

A text of settings lists the origins that stand between its commas, without the blanks around them.
Pieces that are blank list nothing.  Joined lists are read one after the other, and what was read is
in normal form: written with commas between, it is read back.

    originsOf "https://a , ,https://b" = ["https://a", "https://b"]
    originsOf (s ++ "," ++ t)          = originsOf s ++ originsOf t
-/

namespace Accounts

/-! ## Pieces -/

namespace Text

variable {mark : Char} {cs piece : List Char}

/-- A piece of a text has no mark, and stands between marks when the text is put between marks. -/
structure IsPiece (mark : Char) (cs piece : List Char) : Prop where
  unmarked : mark ∉ piece
  between : ∃ before after, mark :: cs ++ [mark] = before ++ mark :: piece ++ mark :: after

/-- A text without marks is one piece, and every other text is a piece, a mark and a text. -/
theorem pieces_induction (mark : Char) {motive : List Char → Prop}
    (whole : ∀ piece, mark ∉ piece → motive piece)
    (more : ∀ piece rest, mark ∉ piece → motive rest → motive (piece ++ mark :: rest))
    (cs : List Char) : motive cs := by
  by_cases hmark : mark ∈ cs
  · obtain ⟨piece, rest, hcs, hpiece⟩ := List.eq_append_cons_of_mem hmark
    have hshorter : rest.length < cs.length := by
      rw [hcs, List.length_append, List.length_cons]
      omega
    rw [hcs]
    exact more piece rest hpiece (pieces_induction mark whole more rest)
  · exact whole cs hmark
termination_by cs.length

/-- Splitting gives pieces. -/
theorem isPiece_of_mem_splitOn (h : piece ∈ cs.splitOn mark) : IsPiece mark cs piece := by
  induction cs using pieces_induction mark with
  | whole cs hcs =>
    rw [List.splitOn_eq_singleton hcs, List.mem_singleton] at h
    subst h
    exact ⟨hcs, [], [], rfl⟩
  | more first rest hfirst ih =>
    rw [List.splitOn_append_cons_self_of_not_mem hfirst] at h
    rcases List.mem_cons.1 h with rfl | h
    · exact ⟨hfirst, [], rest ++ [mark], by simp⟩
    · obtain ⟨hpiece, before, after, hbetween⟩ := ih h
      refine ⟨hpiece, mark :: first ++ before, after, ?_⟩
      calc mark :: (first ++ mark :: rest) ++ [mark]
        _ = mark :: first ++ (mark :: rest ++ [mark]) := by simp
        _ = mark :: first ++ before ++ mark :: piece ++ mark :: after := by
          rw [hbetween]
          simp

/-- Splitting gives every piece. -/
theorem IsPiece.mem_splitOn (h : IsPiece mark cs piece) : piece ∈ cs.splitOn mark := by
  obtain ⟨hpiece, before, after, hbetween⟩ := h
  have hsplit : [] :: (cs.splitOn mark ++ [[]]) =
      before.splitOn mark ++ piece :: after.splitOn mark := by
    calc [] :: (cs.splitOn mark ++ [[]])
      _ = ([] ++ mark :: (cs ++ mark :: [])).splitOn mark := by
        rw [List.splitOn_append_cons_self, List.splitOn_append_cons_self, List.splitOn_nil]
        rfl
      _ = (before ++ mark :: (piece ++ mark :: after)).splitOn mark :=
        congrArg (List.splitOn mark) (by simpa using hbetween)
      _ = before.splitOn mark ++ piece :: after.splitOn mark := by
        rw [List.splitOn_append_cons_self, List.splitOn_append_cons_self_of_not_mem hpiece]
  -- the piece is not the first one, before the added mark, nor the last one, behind the other
  obtain ⟨first, others, hfirst⟩ := List.exists_cons_of_ne_nil (List.splitOn_ne_nil mark before)
  rw [hfirst, List.cons_append, List.cons.injEq] at hsplit
  have hmiddle := congrArg List.dropLast hsplit.2
  rw [List.dropLast_concat, List.dropLast_append_cons,
    List.dropLast_cons_of_ne_nil (List.splitOn_ne_nil mark after)] at hmiddle
  rw [hmiddle]
  exact List.mem_append_right _ List.mem_cons_self

theorem mem_splitOn_iff : piece ∈ cs.splitOn mark ↔ IsPiece mark cs piece :=
  ⟨isPiece_of_mem_splitOn, IsPiece.mem_splitOn⟩

/-- Trimming brings no characters. -/
theorem trimList_sublist (p : Char → Bool) (cs : List Char) : (trimList p cs).Sublist cs := by
  have hright : (dropRightWhile p (cs.dropWhile p)).Sublist (cs.dropWhile p) := by
    rw [← List.reverse_sublist, dropRightWhile, List.reverse_reverse]
    exact List.dropWhile_sublist p
  exact hright.trans (List.dropWhile_sublist p)

theorem toList_strip_sublist (s : String) : (strip s).toList.Sublist s.toList := by
  rw [strip, String.toList_ofList]
  exact trimList_sublist isBlank s.toList

end Text

/-! ## Origins -/

namespace Settings

open Text

variable {s origin : String}

/-- A text lists an origin: what is left of a piece between commas without the blanks around it,
when that is anything at all. -/
structure Lists (s origin : String) : Prop where
  nonempty : origin ≠ ""
  piece : ∃ piece, IsPiece ',' s.toList piece ∧ origin = strip (String.ofList piece)

/-- A text that a list can hold: it is not empty, and has no comma in it and no blanks around it. -/
structure Listable (origin : String) : Prop where
  nonempty : origin ≠ ""
  unmarked : ',' ∉ origin.toList
  trimmed : Trimmed isBlank origin.toList

/-- The origin in a piece, if it is not blank. -/
def originOf? (piece : List Char) : Option String :=
  if (trimList isBlank piece).isEmpty then none else some (String.ofList (trimList isBlank piece))

theorem originsOf_eq (s : String) : originsOf s = (s.toList.splitOn ',').filterMap originOf? := by
  unfold originsOf
  rw [List.filterMap_map]
  rfl

theorem originOf?_eq_some_iff {piece : List Char} :
    originOf? piece = some origin ↔ origin ≠ "" ∧ origin = strip (String.ofList piece) := by
  unfold originOf? strip
  rw [String.toList_ofList]
  split
  case isTrue hblank =>
    rw [List.isEmpty_iff.1 hblank]
    refine ⟨fun h => (nomatch h), ?_⟩
    rintro ⟨hne, heq⟩
    exact absurd heq hne
  case isFalse hblank =>
    rw [Option.some.injEq, eq_comm]
    refine ⟨fun heq => ⟨?_, heq⟩, And.right⟩
    rintro rfl
    exact hblank (List.isEmpty_iff.2 (by simpa using congrArg String.toList heq.symm))

/-- An origin stays as it is. -/
theorem Listable.originOf? (h : Listable origin) : originOf? origin.toList = some origin := by
  rw [originOf?_eq_some_iff, String.ofList_toList]
  exact ⟨h.nonempty, (strip_of_trimmed h.trimmed).symm⟩

/-- The origins that are read from a text are those that it lists. -/
theorem mem_originsOf_iff : origin ∈ originsOf s ↔ Lists s origin := by
  rw [originsOf_eq, List.mem_filterMap]
  constructor
  · rintro ⟨piece, hpiece, horigin⟩
    obtain ⟨hne, heq⟩ := originOf?_eq_some_iff.1 horigin
    exact ⟨hne, piece, mem_splitOn_iff.1 hpiece, heq⟩
  · rintro ⟨hne, piece, hpiece, heq⟩
    exact ⟨piece, mem_splitOn_iff.2 hpiece, originOf?_eq_some_iff.2 ⟨hne, heq⟩⟩

example : originsOf " https://a ,, https://b\t,*" = ["https://a", "https://b", "*"] := by
  decide +kernel

theorem Lists.listable (h : Lists s origin) : Listable origin := by
  obtain ⟨hne, piece, hpiece, rfl⟩ := h
  refine ⟨hne, fun hcomma => hpiece.unmarked ?_, trimmed_strip _⟩
  have hsub := toList_strip_sublist (String.ofList piece)
  rw [String.toList_ofList] at hsub
  exact hsub.subset hcomma

/-- Two lists with a comma between them are read one after the other. -/
theorem originsOf_comma (s t : String) : originsOf (s ++ "," ++ t) = originsOf s ++ originsOf t := by
  have htext : (s ++ "," ++ t).toList = s.toList ++ ',' :: t.toList := by simp
  rw [originsOf_eq, htext, List.splitOn_append_cons_self, List.filterMap_append, ← originsOf_eq,
    ← originsOf_eq]

/-- Origins with commas between them are read back. -/
theorem originsOf_intercalate {origins : List String} (h : ∀ origin ∈ origins, Listable origin) :
    originsOf (String.intercalate "," origins) = origins := by
  cases origins with
  | nil => rfl
  | cons first others =>
    have hsplit : (String.intercalate "," (first :: others)).toList.splitOn ',' =
        (first :: others).map String.toList := by
      rw [String.toList_intercalate]
      refine List.splitOn_intercalate ',' ?_ (by simp)
      intro piece hpiece
      obtain ⟨origin, horigin, rfl⟩ := List.mem_map.1 hpiece
      exact (h origin horigin).unmarked
    rw [originsOf_eq, hsplit, List.filterMap_map]
    calc (first :: others).filterMap (originOf? ∘ String.toList)
      _ = (first :: others).filterMap some :=
        List.filterMap_congr fun origin horigin => (h origin horigin).originOf?
      _ = first :: others := List.filterMap_some

end Settings

end Accounts
