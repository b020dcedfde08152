import Accounts.Account.Normal

/-!
# Texts in normal form

Trimming and lowercase reach their form at once: what they give is not changed by either of them
again, although lowercase is longer than the text for some characters and a sigma looks at the
letters around it.

    strip (strip s) = strip s                  lower (lower s) = lower s
    strip (foldText s) = foldText s            lower (foldText s) = foldText s
-/

namespace Accounts

namespace Text

variable {p : Char → Bool} {cs : List Char} {c : Char}

/-! ## Trimming -/

/-- Neither end of a text is in a class. -/
def Trimmed (p : Char → Bool) (cs : List Char) : Prop :=
  (∀ c, cs.head? = some c → p c = false) ∧ ∀ c, cs.getLast? = some c → p c = false

theorem head?_dropWhile (h : (cs.dropWhile p).head? = some c) : p c = false := by
  have hnot := List.head?_dropWhile_not p cs
  rw [h] at hnot
  exact hnot

/-- What is cut off the right end comes behind what is left. -/
theorem head?_dropRightWhile (h : (dropRightWhile p cs).head? = some c) : cs.head? = some c := by
  have hsplit : cs = dropRightWhile p cs ++ (cs.reverse.takeWhile p).reverse := by
    rw [dropRightWhile, ← List.reverse_append, List.takeWhile_append_dropWhile, List.reverse_reverse]
  rw [hsplit, List.head?_append, h]
  rfl

theorem trimmed_trimList (p : Char → Bool) (cs : List Char) : Trimmed p (trimList p cs) := by
  constructor
  · intro c hc
    exact head?_dropWhile (head?_dropRightWhile hc)
  · intro c hc
    rw [trimList, dropRightWhile, List.getLast?_reverse] at hc
    exact head?_dropWhile hc

theorem dropWhile_of_head? (h : ∀ c, cs.head? = some c → p c = false) : cs.dropWhile p = cs := by
  cases cs with
  | nil => rfl
  | cons c cs => rw [List.dropWhile_cons, h c rfl, if_neg Bool.false_ne_true]

/-- A trimmed text stays as it is. -/
theorem trimList_of_trimmed (h : Trimmed p cs) : trimList p cs = cs := by
  have hlast : cs.reverse.dropWhile p = cs.reverse :=
    dropWhile_of_head? fun c hc => h.2 c (by rwa [List.head?_reverse] at hc)
  rw [trimList, dropWhile_of_head? h.1, dropRightWhile, hlast, List.reverse_reverse]

theorem trimmed_strip (s : String) : Trimmed isBlank (strip s).toList := by
  rw [strip, String.toList_ofList]
  exact trimmed_trimList _ _

theorem strip_of_trimmed {s : String} (h : Trimmed isBlank s.toList) : strip s = s := by
  rw [strip, trimList_of_trimmed h, String.ofList_toList]

theorem strip_strip (s : String) : strip (strip s) = strip s := strip_of_trimmed (trimmed_strip s)

/-! ## Lowercase characters -/

/-- The lowercase forms of the code points of a run are outside another run: they lie before or
behind it, or on the other side of every second code point. -/
def CaseRun.avoids (r q : CaseRun) : Bool :=
  q.last < (r.first + r.shift).toNat || (r.last + r.shift).toNat < q.first ||
    ((r.step == 2 || r.first == r.last) && q.step == 2 &&
      ((r.first + r.shift).toNat + q.first) % 2 == 1)

theorem CaseRun.has_of_avoids {r q : CaseRun} {n : Nat} (h : r.avoids q = true)
    (hshift : 0 ≤ r.first + r.shift) (hn : r.has n = true) : q.has (n + r.shift).toNat = false := by
  obtain ⟨first, last, step, shift⟩ := r
  obtain ⟨first', last', step', shift'⟩ := q
  simp only [avoids, has, Bool.or_eq_true, Bool.and_eq_true, decide_eq_true_eq, beq_iff_eq] at h hn
  simp only [has, Bool.and_eq_false_iff, decide_eq_false_iff_not, beq_eq_false_iff_ne]
  dsimp only at hshift
  rcases h with (h | h) | ⟨⟨rfl | rfl, rfl⟩, h⟩ <;> omega

/-- The two letters whose form is not in the runs, the code points that are no characters, and the
blanks, as runs. -/
def unsettledRuns : List CaseRun :=
  [⟨304, 304, 1, 0⟩, ⟨931, 931, 1, 0⟩, ⟨0xD800, 0xDFFF, 1, 0⟩, ⟨9, 13, 1, 0⟩, ⟨28, 32, 1, 0⟩,
   ⟨0x85, 0x85, 1, 0⟩, ⟨0xA0, 0xA0, 1, 0⟩, ⟨0x1680, 0x1680, 1, 0⟩, ⟨0x2000, 0x200A, 1, 0⟩,
   ⟨0x2028, 0x2029, 1, 0⟩, ⟨0x202F, 0x202F, 1, 0⟩, ⟨0x205F, 0x205F, 1, 0⟩, ⟨0x3000, 0x3000, 1, 0⟩]

/-- The lowercase forms of all runs are characters outside all runs. -/
theorem lowercaseRuns_avoid : ∀ r ∈ lowercaseRuns, 0 ≤ r.first + r.shift ∧
    r.last + r.shift < 0x110000 ∧ ∀ q ∈ lowercaseRuns ++ unsettledRuns, r.avoids q = true := by
  have h : lowercaseRuns.all (fun r => decide (0 ≤ r.first + r.shift) &&
      decide (r.last + r.shift < 0x110000) &&
      (lowercaseRuns ++ unsettledRuns).all fun q => r.avoids q) = true := by
    decide +kernel
  intro r hr
  have hr := List.all_eq_true.1 h r hr
  rw [Bool.and_eq_true, Bool.and_eq_true, decide_eq_true_eq, decide_eq_true_eq] at hr
  exact ⟨hr.1.1, hr.1.2, List.all_eq_true.1 hr.2⟩

/-- Lowercase leaves a character alone, whatever stands around it. -/
def Settled (c : Char) : Prop := ∀ before after, lowerAt before c after = [c]

/-- The lowercase form of a code point is itself, or a character that is in no run. -/
theorem lowerCode_cases (n : Nat) : (lowercaseRuns.find? (·.has n) = none ∧ lowerCode n = n) ∨
    (lowerCode n).isValidChar ∧ ∀ q ∈ lowercaseRuns ++ unsettledRuns, q.has (lowerCode n) = false := by
  unfold lowerCode
  cases hfind : lowercaseRuns.find? (·.has n) with
  | none => exact .inl ⟨rfl, rfl⟩
  | some r =>
    obtain ⟨hlow, hhigh, havoids⟩ := lowercaseRuns_avoid r (List.mem_of_find?_eq_some hfind)
    have hn : r.has n = true := List.find?_some (p := fun r : CaseRun => r.has n) hfind
    have houtside (q : CaseRun) (hq : q ∈ lowercaseRuns ++ unsettledRuns) :
        q.has ((n : Int) + r.shift).toNat = false :=
      CaseRun.has_of_avoids (havoids q hq) hlow hn
    refine .inr ⟨?_, houtside⟩
    have hsurrogate := houtside ⟨0xD800, 0xDFFF, 1, 0⟩
      (List.mem_append_right _ (.tail _ (.tail _ (.head _))))
    simp only [CaseRun.has, Nat.mod_one, Bool.and_eq_false_iff, decide_eq_false_iff_not,
      beq_self_eq_true, Bool.true_eq_false, or_false] at hsurrogate
    simp only [CaseRun.has, Bool.and_eq_true, decide_eq_true_eq] at hn
    unfold Nat.isValidChar
    dsimp only
    omega

theorem not_isBlank_of_runs (h : ∀ q ∈ unsettledRuns, q.has c.toNat = false) : isBlank c = false := by
  simp only [unsettledRuns, List.forall_mem_cons, CaseRun.has, Nat.mod_one, Bool.and_eq_false_iff,
    decide_eq_false_iff_not, beq_self_eq_true, Bool.true_eq_false, or_false] at h
  unfold isBlank isWhiteSpace
  simp only [Bool.or_eq_false_iff, Bool.and_eq_false_iff, decide_eq_false_iff_not,
    beq_eq_false_iff_ne]
  omega

/-- A character with a form of its own that needs no context is settled when it is that form. -/
theorem settled_of_lowerChar (hi : c ≠ 'İ') (hs : c ≠ 'Σ') (h : lowerChar c = c) : Settled c := by
  intro before after
  rw [lowerAt, if_neg hi, if_neg hs, h]

/-- The lowercase form of a character is settled, and it is blank for a blank only. -/
theorem settled_lowerChar (hi : c ≠ 'İ') (hs : c ≠ 'Σ') :
    Settled (lowerChar c) ∧ (isBlank c = false → isBlank (lowerChar c) = false) := by
  rcases lowerCode_cases c.toNat with ⟨-, hsame⟩ | ⟨hvalid, houtside⟩
  · have hc : lowerChar c = c := by rw [lowerChar, hsame, Char.ofNat_toNat]
    rw [hc]
    exact ⟨settled_of_lowerChar hi hs hc, id⟩
  · have hnat : (lowerChar c).toNat = lowerCode c.toNat := by
      rw [lowerChar, Char.ofNat, dif_pos hvalid]
      rfl
    rw [← hnat] at houtside
    have hdotted : lowerChar c ≠ 'İ' := by
      intro heq
      have hin := houtside ⟨304, 304, 1, 0⟩ (List.mem_append_right _ (.head _))
      rw [heq] at hin
      exact absurd hin (by decide)
    have hsigma : lowerChar c ≠ 'Σ' := by
      intro heq
      have hin := houtside ⟨931, 931, 1, 0⟩ (List.mem_append_right _ (.tail _ (.head _)))
      rw [heq] at hin
      exact absurd hin (by decide)
    have hfixed : lowerChar (lowerChar c) = lowerChar c := by
      have hnone : lowercaseRuns.find? (·.has (lowerChar c).toNat) = none := by
        rw [List.find?_eq_none]
        intro q hq
        rw [houtside q (List.mem_append_left _ hq)]
        exact Bool.false_ne_true
      have hcode : lowerCode (lowerChar c).toNat = (lowerChar c).toNat := by
        rw [lowerCode, hnone]
      rw [lowerChar, hcode, Char.ofNat_toNat]
    exact ⟨settled_of_lowerChar hdotted hsigma hfixed, fun _ =>
      not_isBlank_of_runs fun q hq => houtside q (List.mem_append_right _ hq)⟩

/-! ## Lowercase texts -/

theorem lowerAt_settled (before : List Char) (c : Char) (after : List Char) :
    lowerAt before c after ≠ [] ∧ ∀ d ∈ lowerAt before c after,
      Settled d ∧ (isBlank c = false → isBlank d = false) := by
  unfold lowerAt
  by_cases hi : c = 'İ'
  · rw [if_pos hi]
    refine ⟨List.cons_ne_nil _ _, ?_⟩
    intro d hd
    simp only [List.mem_cons, List.not_mem_nil, or_false] at hd
    rcases hd with rfl | rfl
    · exact ⟨settled_of_lowerChar (by decide) (by decide) (by decide +kernel), fun _ => by decide⟩
    · exact ⟨settled_of_lowerChar (by decide) (by decide) (by decide +kernel), fun _ => by decide⟩
  · rw [if_neg hi]
    by_cases hs : c = 'Σ'
    · rw [if_pos hs]
      refine ⟨List.cons_ne_nil _ _, ?_⟩
      intro d hd
      rw [List.mem_singleton] at hd
      split at hd
      · subst hd
        exact ⟨settled_of_lowerChar (by decide) (by decide) (by decide +kernel), fun _ => by decide⟩
      · subst hd
        exact ⟨settled_of_lowerChar (by decide) (by decide) (by decide +kernel), fun _ => by decide⟩
    · rw [if_neg hs]
      refine ⟨List.cons_ne_nil _ _, ?_⟩
      intro d hd
      rw [List.mem_singleton.1 hd]
      exact settled_lowerChar hi hs

theorem lowerFrom_settled (before cs : List Char) : ∀ d ∈ lowerFrom before cs, Settled d := by
  induction cs generalizing before with
  | nil =>
    intro d hd
    cases hd
  | cons c cs ih =>
    intro d hd
    rcases List.mem_append.1 hd with hd | hd
    · exact ((lowerAt_settled before c cs).2 d hd).1
    · exact ih _ d hd

/-- A text of settled characters stays as it is. -/
theorem lowerFrom_of_settled (before : List Char) (h : ∀ c ∈ cs, Settled c) :
    lowerFrom before cs = cs := by
  induction cs generalizing before with
  | nil => rfl
  | cons c cs ih =>
    rw [lowerFrom, h c List.mem_cons_self before cs,
      ih (c :: before) fun d hd => h d (List.mem_cons_of_mem c hd)]
    rfl

theorem lower_lower (s : String) : lower (lower s) = lower s := by
  have h : lowerFrom [] (lower s).toList = (lower s).toList := by
    refine lowerFrom_of_settled [] fun c hc => ?_
    rw [lower, String.toList_ofList] at hc
    exact lowerFrom_settled [] _ c hc
  rw [lower, h, String.ofList_toList]

/-- The lowercase form of a text ends with that of its last character. -/
theorem lowerFrom_concat (before cs : List Char) (c : Char) :
    ∃ start before', lowerFrom before (cs ++ [c]) = start ++ lowerAt before' c [] := by
  induction cs generalizing before with
  | nil => exact ⟨[], before, by simp [lowerFrom]⟩
  | cons d cs ih =>
    obtain ⟨start, before', h⟩ := ih (d :: before)
    refine ⟨lowerAt before d (cs ++ [c]) ++ start, before', ?_⟩
    rw [List.cons_append, lowerFrom, h, List.append_assoc]

/-- Lowercase brings no blanks to the ends of a text. -/
theorem trimmed_lowerFrom (h : Trimmed isBlank cs) : Trimmed isBlank (lowerFrom [] cs) := by
  constructor
  · intro d hd
    cases cs with
    | nil => cases hd
    | cons c cs =>
      obtain ⟨hne, hblank⟩ := lowerAt_settled [] c cs
      rw [lowerFrom, List.head?_append, List.head?_eq_some_head hne, Option.some_or] at hd
      have hmem : d ∈ lowerAt [] c cs := Option.some.inj hd ▸ List.head_mem hne
      exact (hblank d hmem).2 (h.1 c rfl)
  · intro d hd
    rcases List.eq_nil_or_concat cs with rfl | ⟨cs', c, rfl⟩
    · cases hd
    · rw [List.concat_eq_append] at h hd
      obtain ⟨start, before', heq⟩ := lowerFrom_concat [] cs' c
      obtain ⟨hne, hblank⟩ := lowerAt_settled before' c []
      rw [heq, List.getLast?_append, List.getLast?_eq_some_getLast hne, Option.some_or] at hd
      have hmem : d ∈ lowerAt before' c [] := Option.some.inj hd ▸ List.getLast_mem hne
      exact (hblank d hmem).2 (h.2 c List.getLast?_concat)

end Text

/-! ## Normal forms -/

open Text

theorem trimmed_foldText (s : String) : Trimmed isBlank (foldText s).toList := by
  rw [foldText, lower, String.toList_ofList]
  exact trimmed_lowerFrom (trimmed_strip s)

theorem strip_foldText (s : String) : strip (foldText s) = foldText s :=
  strip_of_trimmed (trimmed_foldText s)

theorem lower_foldText (s : String) : lower (foldText s) = foldText s := lower_lower (strip s)

/-- The normal form of an email is its own normal form. -/
theorem foldText_foldText (s : String) : foldText (foldText s) = foldText s := by
  rw [foldText, strip_foldText, lower_foldText]

end Accounts
