import Accounts.Proofs.Json.RoundTrip

/-!
# Integers that are too long to be read

An integer of any length is written, but one of more than 4300 digits stops the reader.  So an object
is not read back when such an integer is the value of a member, whatever exact members are in front of
it and whatever comes after it:

    before exact, 4300 < digits of n  →  read (before, name : n, after) = .error .tooManyDigits
-/

namespace Accounts.Json

open Number

variable {loose : Bool} {depth : Nat} {mode : Escaping} {n : Int} {name : String}

/-! ## The integer -/

theorem readUnsigned_tooLong {k : Nat} (hk : maxDigits < (digits k).length) (left : Nat)
    (negative : Bool) {rest : List Char} (h : EndsNumber rest) :
    readUnsigned left negative (digits k ++ rest) = .error .tooManyDigits := by
  unfold readUnsigned
  rw [readWhole?_digits k h.1]
  dsimp only
  rw [readPart?_none h]
  simp only [Option.map_none, Option.getD_none, readExponent?_none h]
  rw [if_pos ⟨rfl, rfl⟩, if_pos hk]

theorem readValue_tooLong (hn : maxDigits < (digits n.natAbs).length) (fuel : Nat)
    {rest : List Char} (h : EndsNumber rest) :
    readValue loose (fuel + 1) depth (intDigits n ++ rest) = .error .tooManyDigits := by
  obtain ⟨left, hread⟩ := readNumber_sign n rest
  rw [readValue_intDigits, hread, readUnsigned_tooLong hn left _ h]

/-! ## The members around it -/

/-- The text of members, without a mark before the first. -/
def memberList (mode : Escaping) (members : List (String × Json)) : List Char :=
  (membersChars mode members).tail

theorem chars_int (mode : Escaping) (n : Int) : chars mode (.int n) = intDigits n := rfl

theorem memberList_cons (mode : Escaping) (k : String) (j : Json) (ms : List (String × Json))
    (rest : List Char) :
    memberList mode ((k, j) :: ms) ++ rest =
      quote mode k ++ ':' :: (chars mode j ++ (membersChars mode ms ++ rest)) := by
  show quote mode k ++ ':' :: (chars mode j ++ membersChars mode ms) ++ rest = _
  rw [List.append_assoc, List.cons_append, List.append_assoc]

theorem membersChars_of_ne_nil {ms : List (String × Json)} (h : ms ≠ []) :
    membersChars mode ms = ',' :: memberList mode ms := by
  rcases ms with _ | ⟨⟨k, j⟩, ms⟩
  · exact absurd rfl h
  · rfl

theorem skipSpace_memberList (mode : Escaping) {ms : List (String × Json)} (h : ms ≠ [])
    (rest : List Char) : skipSpace (memberList mode ms ++ rest) = memberList mode ms ++ rest := by
  rcases ms with _ | ⟨⟨k, j⟩, ms⟩
  · exact absurd rfl h
  · rw [memberList_cons, skipSpace_quote]

theorem four_le_length_memberList (mode : Escaping) (name : String) (n : Int)
    (after : List (String × Json)) : 4 ≤ (memberList mode ((name, .int n) :: after)).length := by
  have hquote : 2 ≤ (quote mode name).length := by
    rw [quote, List.length_cons, List.length_append, List.length_singleton]
    omega
  have hlist := memberList_cons mode name (.int n) after []
  rw [List.append_nil, List.append_nil] at hlist
  obtain ⟨c, cs, hchars, -⟩ := startsValue_intDigits n
  rw [hlist, chars_int, hchars]
  simp only [List.length_append, List.length_cons]
  omega

/-- The reader of members goes through the exact ones and stops at the integer. -/
theorem readMembers_tooLong (hn : maxDigits < (digits n.natAbs).length)
    {before acc : List (String × Json)} (after : List (String × Json)) {fuel : Nat}
    (rest : List Char) (hexact : MembersExact before) (hdepth : membersDepth before ≤ depth)
    (hnames : ((acc ++ before).map (·.1)).Nodup)
    (hfuel : 2 * (memberList mode (before ++ (name, .int n) :: after)).length ≤ fuel + 1) :
    readMembers loose fuel depth acc (memberList mode (before ++ (name, .int n) :: after) ++ rest) =
      .error .tooManyDigits := by
  induction before generalizing acc fuel with
  | nil =>
    have hlength := four_le_length_memberList mode name n after
    rw [List.nil_append] at hfuel ⊢
    obtain ⟨fuel, rfl⟩ : ∃ k, fuel = k + 2 := ⟨fuel - 2, by omega⟩
    rw [memberList_cons, chars_int, readMembers_name mode name (fuel + 1) acc
      ((startsValue_intDigits n).skipSpace _),
      readValue_tooLong hn fuel (follows_membersChars mode after rest).endsNumber]
  | cons p before ih =>
    obtain ⟨k, j⟩ := p
    have hmore : before ++ (name, .int n) :: after ≠ [] := List.append_ne_nil_of_right_ne_nil _
      (List.cons_ne_nil _ _)
    rw [List.cons_append] at hfuel ⊢
    have hlist := memberList_cons mode k j (before ++ (name, .int n) :: after) []
    rw [List.append_nil, List.append_nil, membersChars_of_ne_nil hmore] at hlist
    rw [hlist, List.length_append, List.length_cons, List.length_append, List.length_cons] at hfuel
    have hpos := length_quote_pos mode k
    obtain ⟨fuel, rfl⟩ : ∃ f, fuel = f + 1 := ⟨fuel - 1, by omega⟩
    rw [membersDepth, Nat.max_le] at hdepth
    have hvalue := (inverts loose mode fuel).value j depth
      (membersChars mode (before ++ (name, .int n) :: after) ++ rest) hexact.1 hdepth.1 (by omega)
      (follows_membersChars mode _ rest)
    have hname : k ∉ acc.map (·.1) := by
      rw [List.map_append, List.map_cons, List.nodup_append] at hnames
      exact fun h => hnames.2.2 k h k List.mem_cons_self rfl
    rw [membersChars_of_ne_nil hmore, List.cons_append] at hvalue
    rw [memberList_cons, membersChars_of_ne_nil hmore, List.cons_append,
      readMembers_comma mode hvalue hexact.1 hname (skipSpace_memberList mode hmore rest)]
    refine ih hexact.2 hdepth.2 ?_ (by omega)
    rw [List.append_assoc]
    exact hnames

/-! ## The object -/

/-- An object is not read when its members are not. -/
theorem readValue_obj_error {fuel : Nat} {cs : List Char} {fault : ReadFault}
    (hspace : skipSpace cs = cs) (hend : ∀ tail, cs ≠ '\x7d' :: tail)
    (h : readMembers loose fuel depth [] cs = .error fault) :
    readValue loose (fuel + 1) (depth + 1) ('\x7b' :: cs) = .error fault := by
  rw [readValue, hspace]
  split
  · rename_i tail
    exact absurd rfl (hend tail)
  · rw [h]

/-- An object with an integer that is too long is not read back. -/
theorem read_chars_tooLong {limits : Limits} (mode : Escaping)
    (hn : maxDigits < (digits n.natAbs).length) {before : List (String × Json)}
    (hbefore : Exact (.obj before)) (hdepth : (obj before).depth ≤ limits.depth) (name : String)
    (after : List (String × Json)) :
    read limits (chars mode (obj (before ++ (name, .int n) :: after))) = .error .tooManyDigits := by
  obtain ⟨room, hroom⟩ : ∃ room, limits.depth = room + 1 :=
    Nat.exists_eq_succ_of_ne_zero (Nat.ne_of_gt (Nat.lt_of_lt_of_le (Nat.succ_pos _) hdepth))
  rw [hroom] at hdepth
  have hmembers : before ++ (name, .int n) :: after ≠ [] := List.append_ne_nil_of_right_ne_nil _
    (List.cons_ne_nil _ _)
  have hchars : chars mode (obj (before ++ (name, .int n) :: after)) =
      '\x7b' :: memberList mode (before ++ (name, .int n) :: after) := by
    cases before <;> rfl
  have hread : readMembers limits.loose
      (2 * (chars mode (obj (before ++ (name, .int n) :: after))).length + 1) room []
      (memberList mode (before ++ (name, .int n) :: after) ++ []) = .error .tooManyDigits :=
    readMembers_tooLong hn after [] hbefore.2 (Nat.le_of_succ_le_succ hdepth) hbefore.1
      (by rw [hchars, List.length_cons]; omega)
  have hspace := skipSpace_memberList mode hmembers []
  rw [List.append_nil] at hread hspace
  have hend : ∀ tail, memberList mode (before ++ (name, .int n) :: after) ≠ '\x7d' :: tail := by
    intro tail heq
    rcases hms : before ++ (name, .int n) :: after with _ | ⟨⟨k, j⟩, ms⟩
    · exact hmembers hms
    · have hlist := memberList_cons mode k j ms []
      rw [List.append_nil, ← hms, heq, quote] at hlist
      exact absurd (List.cons.inj hlist).1 (by decide)
  have hvalue := readValue_obj_error hspace hend hread
  have hskip : skipSpace (chars mode (obj (before ++ (name, .int n) :: after))) =
      chars mode (obj (before ++ (name, .int n) :: after)) := by
    rw [hchars]
    rfl
  rw [← hchars] at hvalue
  unfold read
  rw [hskip, hroom, hvalue]

end Accounts.Json
