import Accounts.Json.Encoding
import Accounts.Json.Writer
import Accounts.Proofs.Number.Decimal
import Accounts.Proofs.Text.Hex
import Accounts.Proofs.Text.Utf8

/-!
# JSON, written and read back

A value without floating point numbers and broken strings is read back from its text, in both ways
of writing strings, when its integers are not too long, the names of its members are distinct and it
is not nested deeper than the reader allows:

    j.depth ≤ limits.depth  →  read limits (chars mode j) = .ok j

The bytes of an object with members show by their start that they are UTF-8.
-/

namespace Accounts.Json

open Number Text

/-! ## Strings -/

/-- The units that the escape of a character is read as. -/
def unitsOf (mode : Escaping) (c : Char) : List Nat :=
  if mode = .ascii ∧ 0x10000 ≤ c.toNat then
    [0xD800 + (c.toNat - 0x10000) / 1024, 0xDC00 + (c.toNat - 0x10000) % 1024]
  else [c.toNat]

/-- Put units in front of those read after them. -/
def prependUnits (us : List Nat) : Read (List Nat) → Read (List Nat)
  | .ok (units, rest) => .ok (us ++ units, rest)
  | .error e => .error e

theorem isValidChar_toNat (c : Char) : c.toNat.isValidChar := c.valid

theorem hex4?_hexChar {n : Nat} (h : n < 0x10000) :
    hex4? (hexChar (n / 4096)) (hexChar (n / 256)) (hexChar (n / 16)) (hexChar n) = some n := by
  unfold hex4?
  rw [hexDigit?_hexChar, hexDigit?_hexChar, hexDigit?_hexChar, hexDigit?_hexChar]
  show some _ = some _
  congr 1
  omega

/-- A unit is read from its escape, when something follows. -/
theorem readUnits_unitEscape (q : Nat) {n : Nat} (hn : n < 0x10000) {rest : List Char}
    (hr : rest ≠ []) :
    readUnits q (unitEscape n ++ rest) = prependUnit n (readUnits q rest) := by
  have hempty : rest.isEmpty = false := by
    cases rest with
    | nil => exact absurd rfl hr
    | cons c cs => rfl
  show readUnits q ('\\' :: 'u' :: hexChar (n / 4096) :: hexChar (n / 256) :: hexChar (n / 16)
    :: hexChar n :: rest) = _
  rw [readUnits, hex4?_hexChar hn, hempty]

theorem prependUnit_eq (n : Nat) (x : Read (List Nat)) : prependUnit n x = prependUnits [n] x := by
  rcases x with e | ⟨units, rest⟩ <;> rfl

theorem prependUnits_append (xs ys : List Nat) (x : Read (List Nat)) :
    prependUnits xs (prependUnits ys x) = prependUnits (xs ++ ys) x := by
  rcases x with e | ⟨units, rest⟩
  · rfl
  · show Except.ok _ = Except.ok _
    rw [List.append_assoc]

theorem readUnits_codeEscape (q : Nat) {n : Nat} (hn : n < 0x110000) {rest : List Char}
    (hr : rest ≠ []) :
    readUnits q (codeEscape n ++ rest) = prependUnits
      (if 0x10000 ≤ n then [0xD800 + (n - 0x10000) / 1024, 0xDC00 + (n - 0x10000) % 1024] else [n])
      (readUnits q rest) := by
  unfold codeEscape
  by_cases h : n < 0x10000
  · rw [if_pos h, if_neg (by omega), readUnits_unitEscape q h hr, prependUnit_eq]
  · have hnext : unitEscape (0xDC00 + (n - 0x10000) % 1024) ++ rest ≠ [] := by
      unfold unitEscape
      exact List.cons_ne_nil _ _
    rw [if_neg h, if_pos (by omega), List.append_assoc, readUnits_unitEscape q (by omega) hnext,
      readUnits_unitEscape q (by omega) hr, prependUnit_eq, prependUnit_eq, prependUnits_append]
    rfl

/-- A character that needs no escape is read as itself. -/
theorem readUnits_plain (q : Nat) {c : Char} (hquote : c ≠ '"') (hslash : c ≠ '\\')
    (hlow : 0x20 ≤ c.toNat) (rest : List Char) :
    readUnits q (c :: rest) = prependUnit c.toNat (readUnits q rest) := by
  rw [readUnits.eq_def]
  split
  · rename_i heq
    cases heq
  · rename_i heq
    cases heq
    exact absurd rfl hquote
  · rename_i heq
    cases heq
    exact absurd rfl hslash
  · rename_i heq
    cases heq
    exact absurd rfl hslash
  · rename_i heq
    cases heq
    exact absurd rfl hslash
  · rename_i heq
    cases heq
    exact absurd rfl hslash
  · rename_i heq
    cases heq
    rw [if_neg (by omega)]

/-- What is read from the escape of a character. -/
theorem readUnits_escapeChar (q : Nat) (mode : Escaping) (c : Char) {rest : List Char}
    (hr : rest ≠ []) :
    readUnits q (escapeChar mode c ++ rest) = prependUnits (unitsOf mode c) (readUnits q rest) := by
  have hvalid : c.toNat < 0x110000 := by
    have := isValidChar_toNat c
    unfold Nat.isValidChar at this
    omega
  have hshort (e d : Char) (he : e ≠ 'u') (hd : shortEscape? e = some d) (hlow : d.toNat < 0x10000) :
      readUnits q ('\\' :: e :: rest) = prependUnits (unitsOf mode d) (readUnits q rest) := by
    rw [readUnits, hd, unitsOf, if_neg (by omega)]
    · exact prependUnit_eq _ _
    · exact fun _ _ _ _ _ hu _ => he hu
    · exact he
  unfold escapeChar
  split
  · rename_i h
    subst h
    exact hshort '"' '"' (by decide) (by decide) (by decide)
  split
  · rename_i h
    subst h
    exact hshort '\\' '\\' (by decide) (by decide) (by decide)
  split
  · rename_i h
    subst h
    exact hshort 'n' '\n' (by decide) (by decide) (by decide)
  split
  · rename_i h
    subst h
    exact hshort 'r' '\r' (by decide) (by decide) (by decide)
  split
  · rename_i h
    subst h
    exact hshort 't' '\t' (by decide) (by decide) (by decide)
  split
  · rename_i h
    subst h
    exact hshort 'b' '\x08' (by decide) (by decide) (by decide)
  split
  · rename_i h
    subst h
    exact hshort 'f' '\x0c' (by decide) (by decide) (by decide)
  split
  · rename_i h
    rw [readUnits_codeEscape q hvalid hr, unitsOf, if_neg (by omega), if_neg (by omega)]
  split
  · rename_i h
    rw [readUnits_codeEscape q hvalid hr, unitsOf]
    simp only [h.1, true_and]
  · rename_i hquote hslash _ _ _ _ _ hlow hmode
    show readUnits q (c :: rest) = _
    rw [readUnits_plain q hquote hslash (by omega) rest, prependUnit_eq, unitsOf]
    rw [if_neg (by rintro ⟨hascii, hbig⟩; exact hmode ⟨hascii, by omega⟩)]

/-- The units of a string are read up to its closing quote. -/
theorem readUnits_escaped (q : Nat) (mode : Escaping) (cs : List Char) (rest : List Char) :
    readUnits q (cs.flatMap (escapeChar mode) ++ '"' :: rest) =
      .ok (cs.flatMap (unitsOf mode), rest) := by
  induction cs with
  | nil => rfl
  | cons c cs ih =>
    have hr : cs.flatMap (escapeChar mode) ++ '"' :: rest ≠ [] :=
      List.append_ne_nil_of_right_ne_nil _ (List.cons_ne_nil _ _)
    rw [List.flatMap_cons, List.append_assoc, readUnits_escapeChar q mode c hr, ih]
    rfl

theorem joinPairs_cons {n : Nat} (h : isHighSurrogate n = false) (us : List Nat) :
    joinPairs (n :: us) = n :: joinPairs us := by
  rcases us with _ | ⟨u, us⟩
  · rfl
  · rw [joinPairs, h]
    rfl

/-- Joining the pairs gives the characters back. -/
theorem joinPairs_unitsOf (mode : Escaping) (cs : List Char) :
    joinPairs (cs.flatMap (unitsOf mode)) = cs.map Char.toNat := by
  induction cs with
  | nil => rfl
  | cons c cs ih =>
    have hvalid := isValidChar_toNat c
    unfold Nat.isValidChar at hvalid
    rw [List.flatMap_cons, List.map_cons, unitsOf]
    split
    · rename_i h
      have hhigh : isHighSurrogate (0xD800 + (c.toNat - 0x10000) / 1024) = true := by
        simp only [isHighSurrogate, Bool.and_eq_true, decide_eq_true_eq]
        omega
      have hlow : isLowSurrogate (0xDC00 + (c.toNat - 0x10000) % 1024) = true := by
        simp only [isLowSurrogate, Bool.and_eq_true, decide_eq_true_eq]
        omega
      have hjoin : joinSurrogates (0xD800 + (c.toNat - 0x10000) / 1024)
          (0xDC00 + (c.toNat - 0x10000) % 1024) = c.toNat := by
        unfold joinSurrogates
        omega
      rw [List.cons_append, List.cons_append, List.nil_append, joinPairs, hhigh, hlow, hjoin, ih]
      rfl
    · have hplain : isHighSurrogate c.toNat = false := by
        simp only [isHighSurrogate, Bool.and_eq_false_iff, decide_eq_false_iff_not]
        omega
      show joinPairs (c.toNat :: cs.flatMap (unitsOf mode)) = _
      rw [joinPairs_cons hplain, ih]

theorem codesText_toNat (s : String) : codesText (s.toList.map Char.toNat) = s := by
  have hchar : ∀ c : Char, codeChar c.toNat = c := by
    intro c
    rw [codeChar, if_pos (isValidChar_toNat c), Char.ofNat_toNat]
  unfold codesText
  rw [List.map_map, show codeChar ∘ Char.toNat = id from funext hchar, List.map_id,
    String.ofList_toList]

theorem areWhole_toNat (cs : List Char) : areWhole (cs.map Char.toNat) = true := by
  rw [areWhole, List.all_map, List.all_eq_true]
  intro c _
  exact decide_eq_true (isValidChar_toNat c)

theorem ofCodes_toNat (s : String) : ofCodes (s.toList.map Char.toNat) = .str s := by
  unfold ofCodes
  rw [areWhole_toNat, if_pos rfl, codesText_toNat]

/-- The codes of a string are read up to its closing quote. -/
theorem readCodes_escaped (loose : Bool) (q : Nat) (mode : Escaping) (s : String)
    (rest : List Char) :
    readCodes loose q (s.toList.flatMap (escapeChar mode) ++ '"' :: rest) =
      .ok (s.toList.map Char.toNat, rest) := by
  unfold readCodes
  rw [readUnits_escaped]
  dsimp only
  rw [joinPairs_unitsOf, areWhole_toNat, Bool.or_true, if_pos rfl]

/-! ## Numbers -/

/-- A text does not go on with what would belong to a number. -/
def EndsNumber (rest : List Char) : Prop :=
  EndsDigits rest ∧ rest.head? ≠ some '.' ∧ rest.head? ≠ some 'e' ∧ rest.head? ≠ some 'E'

theorem readWhole?_digits (n : Nat) {rest : List Char} (hr : EndsDigits rest) :
    readWhole? (digits n ++ rest) = some (digits n, rest) := by
  rcases Nat.eq_zero_or_pos n with rfl | hn
  · rw [show digits 0 = ['0'] by rw [digits]; rfl]
    rfl
  · have hhead := head_digits (Nat.ne_of_gt hn)
    have hall := all_isDigit_digits n
    have htake := takeWhile_isDigit hall hr
    have hdrop := dropWhile_isDigit hall hr
    rcases hd : digits n with _ | ⟨c, cs⟩
    · exact absurd hd (digits_ne_nil n)
    · rw [hd] at hhead hall htake hdrop
      rw [List.cons_append] at htake hdrop ⊢
      rw [readWhole?, if_pos (hall c List.mem_cons_self), spanDigits, htake, hdrop]
      rintro rfl
      exact hhead rfl

theorem readPart?_none {rest : List Char} (h : EndsNumber rest) : readPart? rest = none := by
  unfold readPart?
  split
  · exact absurd rfl h.2.1
  · rfl

theorem readExponent?_none {rest : List Char} (h : EndsNumber rest) :
    readExponent? rest = none := by
  rcases rest with _ | ⟨c, rest⟩
  · rfl
  · have hc : ¬ (c = 'e' ∨ c = 'E') := by
      rintro (rfl | rfl)
      · exact h.2.2.1 rfl
      · exact h.2.2.2 rfl
    show (if c = 'e' ∨ c = 'E' then _ else none) = none
    rw [if_neg hc]

theorem readUnsigned_digits (left : Nat) (negative : Bool) {n : Nat}
    (hn : (digits n).length ≤ maxDigits) {rest : List Char} (h : EndsNumber rest) :
    readUnsigned left negative (digits n ++ rest) =
      .ok (.int (Binary64.signed negative n), rest) := by
  unfold readUnsigned
  rw [readWhole?_digits n h.1]
  dsimp only
  rw [readPart?_none h]
  simp only [Option.map_none, Option.getD_none, readExponent?_none h]
  rw [if_pos ⟨rfl, rfl⟩, if_neg (by omega), ofDigits?_digits]
  rfl

/-- The sign of an integer is read, and then its digits. -/
theorem readNumber_sign (i : Int) (rest : List Char) :
    ∃ left, readNumber (intDigits i ++ rest) =
      readUnsigned left (i < 0) (digits i.natAbs ++ rest) := by
  rcases hd : digits i.natAbs with _ | ⟨c, cs⟩
  · exact absurd hd (digits_ne_nil _)
  · have hc : isDigit c = true := all_isDigit_digits i.natAbs c (hd ▸ List.mem_cons_self)
    have hne {d : Char} {tail tail' : List Char} (hd : isDigit d = false) (heq : c :: tail = d :: tail') :
        False := by
      rw [(List.cons.inj heq).1, hd] at hc
      cases hc
    unfold intDigits
    rw [hd]
    by_cases hsign : i < 0
    · refine ⟨(c :: (cs ++ rest)).length + 1, ?_⟩
      rw [if_pos hsign, decide_eq_true hsign]
      show readNumber ('-' :: c :: (cs ++ rest)) = readUnsigned _ true (c :: (cs ++ rest))
      rw [readNumber]
      exact fun rest' heq => hne (by decide) heq
    · refine ⟨(c :: (cs ++ rest)).length, ?_⟩
      rw [if_neg hsign, decide_eq_false hsign]
      show readNumber (c :: (cs ++ rest)) = readUnsigned _ false (c :: (cs ++ rest))
      rw [readNumber]
      · exact fun rest' heq => hne (by decide) heq
      · exact fun rest' heq => hne (by decide) heq

/-- An integer is read from the front of a text that starts with it. -/
theorem readNumber_intDigits {i : Int} (hi : (digits i.natAbs).length ≤ maxDigits)
    {rest : List Char} (h : EndsNumber rest) :
    readNumber (intDigits i ++ rest) = .ok (.int i, rest) := by
  obtain ⟨left, hread⟩ := readNumber_sign i rest
  rw [hread, readUnsigned_digits left _ hi h]
  by_cases hsign : i < 0
  · rw [decide_eq_true hsign]
    show Except.ok (Json.int (-(i.natAbs : Int)), rest) = _
    rw [show -(i.natAbs : Int) = i by omega]
  · rw [decide_eq_false hsign]
    show Except.ok (Json.int (i.natAbs : Int), rest) = _
    rw [show (i.natAbs : Int) = i by omega]

/-! ## Values -/

mutual

/-- How many arrays and objects are around the innermost value. -/
def depth : Json → Nat
  | arr items => itemsDepth items + 1
  | obj members => membersDepth members + 1
  | _ => 0

/-- How deep the items are nested. -/
def itemsDepth : List Json → Nat
  | [] => 0
  | j :: js => max (depth j) (itemsDepth js)

/-- How deep the values of the members are nested. -/
def membersDepth : List (String × Json) → Nat
  | [] => 0
  | (_, j) :: ms => max (depth j) (membersDepth ms)

end

mutual

/-- No floating point number and no broken string, no integer that is too long, and no name twice in
one object. -/
def Exact : Json → Prop
  | float _ => False
  | brokenStr _ => False
  | int i => (digits i.natAbs).length ≤ maxDigits
  | arr items => AllExact items
  | obj members => (members.map (·.1)).Nodup ∧ MembersExact members
  | null | bool _ | str _ => True

/-- All items are exact. -/
def AllExact : List Json → Prop
  | [] => True
  | j :: js => Exact j ∧ AllExact js

/-- The values of all members are exact. -/
def MembersExact : List (String × Json) → Prop
  | [] => True
  | (_, j) :: ms => Exact j ∧ MembersExact ms

end

/-- What follows a value in a text: nothing, or a mark of the grammar. -/
def Follows (rest : List Char) : Prop :=
  ∀ c, rest.head? = some c → c = ',' ∨ c = ']' ∨ c = '\x7d'

theorem Follows.endsNumber {rest : List Char} (h : Follows rest) : EndsNumber rest := by
  refine ⟨fun c hc => ?_, fun hc => ?_, fun hc => ?_, fun hc => ?_⟩
  · rcases h c hc with rfl | rfl | rfl <;> decide
  · exact absurd (h _ hc) (by decide)
  · exact absurd (h _ hc) (by decide)
  · exact absurd (h _ hc) (by decide)

theorem follows_itemsChars (mode : Escaping) (js : List Json) (rest : List Char) :
    Follows (itemsChars mode js ++ rest) := by
  intro c hc
  rcases js with _ | ⟨j, js⟩
  · cases hc
    exact .inr (.inl rfl)
  · cases hc
    exact .inl rfl

theorem follows_membersChars (mode : Escaping) (ms : List (String × Json)) (rest : List Char) :
    Follows (membersChars mode ms ++ rest) := by
  intro c hc
  rcases ms with _ | ⟨⟨k, j⟩, ms⟩
  · cases hc
    exact .inr (.inr rfl)
  · cases hc
    exact .inl rfl

/-- A text starts neither with white space nor with the end of an array. -/
def StartsValue (cs : List Char) : Prop :=
  ∃ c rest, cs = c :: rest ∧ isSpace c = false ∧ c ≠ ']'

theorem startsValue_digits (n : Nat) : StartsValue (digits n) := by
  rcases hd : digits n with _ | ⟨c, cs⟩
  · exact absurd hd (digits_ne_nil n)
  · have hc : isDigit c = true := all_isDigit_digits n c (hd ▸ List.mem_cons_self)
    refine ⟨c, cs, rfl, ?_, ?_⟩
    · unfold isSpace
      simp only [Bool.or_eq_false_iff, decide_eq_false_iff_not]
      refine ⟨⟨⟨?_, ?_⟩, ?_⟩, ?_⟩ <;> rintro rfl <;> exact absurd hc (by decide)
    · rintro rfl
      exact absurd hc (by decide)

theorem startsValue_intDigits (i : Int) : StartsValue (intDigits i) := by
  unfold intDigits
  split
  · exact ⟨'-', _, rfl, by decide, by decide⟩
  · exact startsValue_digits _

theorem startsValue_chars (mode : Escaping) {j : Json} (h : Exact j) :
    StartsValue (chars mode j) := by
  cases j with
  | null => exact ⟨'n', ['u', 'l', 'l'], rfl, by decide, by decide⟩
  | bool b =>
    cases b with
    | true => exact ⟨'t', ['r', 'u', 'e'], rfl, by decide, by decide⟩
    | false => exact ⟨'f', ['a', 'l', 's', 'e'], rfl, by decide, by decide⟩
  | int i => exact startsValue_intDigits i
  | float x => exact (h : False).elim
  | str s => exact ⟨'"', _, rfl, by decide, by decide⟩
  | brokenStr s => exact (h : False).elim
  | arr items =>
    cases items with
    | nil => exact ⟨'[', _, rfl, by decide, by decide⟩
    | cons j js => exact ⟨'[', _, rfl, by decide, by decide⟩
  | obj members =>
    rcases members with _ | ⟨⟨k, j⟩, ms⟩
    · exact ⟨'\x7b', _, rfl, by decide, by decide⟩
    · exact ⟨'\x7b', _, rfl, by decide, by decide⟩

theorem StartsValue.skipSpace {cs : List Char} (h : StartsValue cs) (rest : List Char) :
    skipSpace (cs ++ rest) = cs ++ rest := by
  obtain ⟨c, tail, rfl, hc, -⟩ := h
  rw [Json.skipSpace, List.cons_append, List.dropWhile_cons, hc]
  rfl

/-- A number is read as one when a digit or a sign starts it. -/
theorem readValue_number (loose : Bool) {c : Char} (hc : isDigit c = true ∨ c = '-')
    (fuel depth : Nat) (cs : List Char) :
    readValue loose (fuel + 1) depth (c :: cs) = readNumber (c :: cs) := by
  have hne (d : Char) (hd : isDigit d = false) (hm : d ≠ '-') : c ≠ d := by
    rintro rfl
    rcases hc with hc | hc
    · rw [hd] at hc
      cases hc
    · exact hm hc
  rw [readValue]
  · exact List.cons_ne_nil c cs
  all_goals
    intro rest heq
    exact absurd (List.cons.inj heq).1 (hne _ (by decide) (by decide))

theorem readValue_quote (loose : Bool) (mode : Escaping) (s : String) (fuel depth : Nat)
    (rest : List Char) :
    readValue loose (fuel + 1) depth (quote mode s ++ rest) = .ok (.str s, rest) := by
  rw [quote, List.cons_append, List.append_assoc, List.singleton_append, readValue,
    readCodes_escaped]
  dsimp only
  rw [ofCodes_toNat]

theorem readValue_intDigits (loose : Bool) (i : Int) (fuel depth : Nat) (rest : List Char) :
    readValue loose (fuel + 1) depth (intDigits i ++ rest) = readNumber (intDigits i ++ rest) := by
  rcases hd : digits i.natAbs with _ | ⟨c, cs⟩
  · exact absurd hd (digits_ne_nil _)
  · have hc : isDigit c = true := all_isDigit_digits i.natAbs c (hd ▸ List.mem_cons_self)
    unfold intDigits
    rw [hd]
    split
    · exact readValue_number loose (.inr rfl) fuel depth _
    · exact readValue_number loose (.inl hc) fuel depth _

theorem readValue_int (loose : Bool) {i : Int} (hi : (digits i.natAbs).length ≤ maxDigits)
    (fuel depth : Nat) {rest : List Char} (h : EndsNumber rest) :
    readValue loose (fuel + 1) depth (intDigits i ++ rest) = .ok (.int i, rest) := by
  rw [readValue_intDigits, readNumber_intDigits hi h]

theorem skipSpace_quote (mode : Escaping) (s : String) (rest : List Char) :
    skipSpace (quote mode s ++ rest) = quote mode s ++ rest := by
  rw [quote, List.cons_append, skipSpace, List.dropWhile_cons]
  rfl

section Members

variable {loose : Bool} {depth : Nat}

/-- A name is read, then its value, and the members go on after them. -/
theorem readMembers_name (mode : Escaping) (name : String) (fuel : Nat)
    (acc : List (String × Json)) {cs : List Char} (hspace : skipSpace cs = cs) :
    readMembers loose (fuel + 1) depth acc (quote mode name ++ ':' :: cs) =
      match readValue loose fuel depth cs with
      | .error e => .error e
      | .ok (value, rest) =>
        match skipSpace rest with
        | '\x7d' :: rest => .ok (Assoc.set name value acc, rest)
        | ',' :: rest => readMembers loose fuel depth (Assoc.set name value acc) (skipSpace rest)
        | rest => .error (.malformed rest.length) := by
  rw [quote, List.cons_append, List.append_assoc, List.singleton_append, readMembers,
    readCodes_escaped]
  dsimp only
  rw [show skipSpace (':' :: cs) = ':' :: cs from rfl]
  split
  · rename_i tail heq
    cases heq
    rewrite [hspace, codesText_toNat]
    rfl
  · rename_i hmark
    exact absurd rfl (hmark _)

/-- A name and its value are read, and the members go on after them. -/
theorem readMembers_member (mode : Escaping) {name : String} {j : Json} {fuel : Nat}
    {acc : List (String × Json)} {rest : List Char}
    (hvalue : readValue loose fuel depth (chars mode j ++ rest) = .ok (j, rest)) (hj : Exact j)
    (hname : name ∉ acc.map (·.1)) :
    readMembers loose (fuel + 1) depth acc (quote mode name ++ ':' :: (chars mode j ++ rest)) =
      match skipSpace rest with
      | '\x7d' :: rest => .ok (acc ++ [(name, j)], rest)
      | ',' :: rest => readMembers loose fuel depth (acc ++ [(name, j)]) (skipSpace rest)
      | rest => .error (.malformed rest.length) := by
  rw [readMembers_name mode name fuel acc ((startsValue_chars mode hj).skipSpace rest), hvalue]
  dsimp only
  rw [Assoc.set_of_not_mem j hname]

/-- After a comma the members go on. -/
theorem readMembers_comma (mode : Escaping) {name : String} {j : Json} {fuel : Nat}
    {acc : List (String × Json)} {cs : List Char}
    (hvalue : readValue loose fuel depth (chars mode j ++ ',' :: cs) = .ok (j, ',' :: cs))
    (hj : Exact j) (hname : name ∉ acc.map (·.1)) (hspace : skipSpace cs = cs) :
    readMembers loose (fuel + 1) depth acc (quote mode name ++ ':' :: (chars mode j ++ ',' :: cs)) =
      readMembers loose fuel depth (acc ++ [(name, j)]) cs := by
  rw [readMembers_member mode hvalue hj hname, show skipSpace (',' :: cs) = ',' :: cs from rfl]
  split
  · rename_i heq
    exact absurd (List.cons.inj heq).1 (by decide)
  · rename_i heq
    cases heq
    rw [hspace]
  · rename_i hmark
    exact absurd rfl (hmark _)

/-- An array is read when its items are. -/
theorem readValue_arr {fuel : Nat} {cs rest : List Char} {items : List Json}
    (hspace : skipSpace cs = cs) (hend : ∀ tail, cs ≠ ']' :: tail)
    (h : readItems loose fuel depth cs = .ok (items, rest)) :
    readValue loose (fuel + 1) (depth + 1) ('[' :: cs) = .ok (.arr items, rest) := by
  rw [readValue, hspace]
  split
  · rename_i tail
    exact absurd rfl (hend tail)
  · rw [h]

/-- An object is read when its members are. -/
theorem readValue_obj {fuel : Nat} {cs rest : List Char} {members : List (String × Json)}
    (hspace : skipSpace cs = cs) (hend : ∀ tail, cs ≠ '\x7d' :: tail)
    (h : readMembers loose fuel depth [] cs = .ok (members, rest)) :
    readValue loose (fuel + 1) (depth + 1) ('\x7b' :: cs) = .ok (.obj members, rest) := by
  rw [readValue, hspace]
  split
  · rename_i tail
    exact absurd rfl (hend tail)
  · rw [h]

end Members

/-- With so much fuel, the readers of values, items and members undo the writer. -/
structure Inverts (loose : Bool) (mode : Escaping) (fuel : Nat) : Prop where
  value : ∀ (j : Json) (room : Nat) (rest : List Char), Exact j → j.depth ≤ room →
    2 * (chars mode j).length ≤ fuel → Follows rest →
    readValue loose fuel room (chars mode j ++ rest) = .ok (j, rest)
  items : ∀ (j : Json) (js : List Json) (room : Nat) (rest : List Char), AllExact (j :: js) →
    itemsDepth (j :: js) ≤ room → 2 * (chars mode j ++ itemsChars mode js).length ≤ fuel + 1 →
    readItems loose fuel room (chars mode j ++ itemsChars mode js ++ rest) = .ok (j :: js, rest)
  members : ∀ (name : String) (j : Json) (ms acc : List (String × Json)) (room : Nat)
    (rest : List Char), MembersExact ((name, j) :: ms) → membersDepth ((name, j) :: ms) ≤ room →
    ((acc ++ (name, j) :: ms).map (·.1)).Nodup →
    2 * (quote mode name ++ ':' :: (chars mode j ++ membersChars mode ms)).length ≤ fuel + 1 →
    readMembers loose fuel room acc
        (quote mode name ++ ':' :: (chars mode j ++ membersChars mode ms) ++ rest) =
      .ok (acc ++ (name, j) :: ms, rest)

theorem length_chars_pos (mode : Escaping) {j : Json} (hj : Exact j) :
    0 < (chars mode j).length := by
  obtain ⟨c, cs, hchars, -⟩ := startsValue_chars mode hj
  rw [hchars]
  exact Nat.succ_pos _

theorem length_quote_pos (mode : Escaping) (s : String) : 0 < (quote mode s).length := Nat.succ_pos _

theorem Inverts.zero (loose : Bool) (mode : Escaping) : Inverts loose mode 0 where
  value j room rest hj _ hfuel _ := by
    have := length_chars_pos mode hj
    omega
  items j js room rest hj _ hfuel := by
    have := length_chars_pos mode hj.1
    rw [List.length_append] at hfuel
    omega
  members name j ms acc room rest hj _ _ hfuel := by
    have := length_quote_pos mode name
    rw [List.length_append] at hfuel
    omega

section Step

variable {loose : Bool} {mode : Escaping} {fuel : Nat}

/-- A value is read when what it holds is read with less fuel. -/
theorem Inverts.value_succ (ih : Inverts loose mode fuel) (j : Json) (room : Nat)
    (rest : List Char) (hj : Exact j) (hroom : j.depth ≤ room)
    (hfuel : 2 * (chars mode j).length ≤ fuel + 1) (hrest : Follows rest) :
    readValue loose (fuel + 1) room (chars mode j ++ rest) = .ok (j, rest) := by
  match j with
  | .null => rfl
  | .bool true => rfl
  | .bool false => rfl
  | .int i => exact readValue_int loose hj fuel room hrest.endsNumber
  | .float x => exact (hj : False).elim
  | .str s => exact readValue_quote loose mode s fuel room rest
  | .brokenStr s => exact (hj : False).elim
  | .arr [] =>
    obtain ⟨room, rfl⟩ := Nat.exists_eq_succ_of_ne_zero (Nat.ne_of_gt hroom)
    rfl
  | .arr (j :: js) =>
    obtain ⟨room, rfl⟩ := Nat.exists_eq_succ_of_ne_zero (Nat.ne_of_gt (Nat.lt_of_lt_of_le
      (Nat.succ_pos _) hroom))
    have hitems := ih.items j js room rest hj (Nat.le_of_succ_le_succ hroom) (by
      simp only [chars, List.length_cons, List.length_append] at hfuel ⊢
      omega)
    refine readValue_arr ?_ (fun tail heq => ?_) hitems
    · show skipSpace (chars mode j ++ itemsChars mode js ++ rest) =
        chars mode j ++ itemsChars mode js ++ rest
      rw [List.append_assoc]
      exact (startsValue_chars mode hj.1).skipSpace _
    · obtain ⟨c, cs, hchars, -, hend⟩ := startsValue_chars mode hj.1
      rw [hchars] at heq
      exact hend (List.cons.inj heq).1
  | .obj [] =>
    obtain ⟨room, rfl⟩ := Nat.exists_eq_succ_of_ne_zero (Nat.ne_of_gt hroom)
    rfl
  | .obj ((name, j) :: ms) =>
    obtain ⟨room, rfl⟩ := Nat.exists_eq_succ_of_ne_zero (Nat.ne_of_gt (Nat.lt_of_lt_of_le
      (Nat.succ_pos _) hroom))
    have hmembers := ih.members name j ms [] room rest hj.2 (Nat.le_of_succ_le_succ hroom) hj.1 (by
      simp only [chars, List.length_cons, List.length_append] at hfuel ⊢
      omega)
    refine readValue_obj ?_ (fun tail heq => ?_) hmembers
    · show skipSpace (quote mode name ++ ':' :: (chars mode j ++ membersChars mode ms) ++ rest) =
        quote mode name ++ ':' :: (chars mode j ++ membersChars mode ms) ++ rest
      rw [List.append_assoc]
      exact skipSpace_quote mode name _
    · rw [quote] at heq
      exact absurd (List.cons.inj heq).1 (by decide)

/-- The items of an array are read up to its end. -/
theorem Inverts.items_succ (ih : Inverts loose mode fuel) (j : Json) (js : List Json) (room : Nat)
    (rest : List Char) (hj : AllExact (j :: js)) (hroom : itemsDepth (j :: js) ≤ room)
    (hfuel : 2 * (chars mode j ++ itemsChars mode js).length ≤ fuel + 1 + 1) :
    readItems loose (fuel + 1) room (chars mode j ++ itemsChars mode js ++ rest) =
      .ok (j :: js, rest) := by
  have hpos := length_chars_pos mode hj.1
  rw [List.length_append] at hfuel
  rw [itemsDepth, Nat.max_le] at hroom
  match js with
  | [] =>
    have hvalue := ih.value j room (itemsChars mode [] ++ rest) hj.1 hroom.1
      (by rw [itemsChars, List.length_singleton] at hfuel; omega) (follows_itemsChars mode [] rest)
    rw [List.append_assoc, readItems, hvalue]
    rfl
  | k :: ks =>
    rw [itemsChars, List.length_cons] at hfuel
    have hvalue := ih.value j room (itemsChars mode (k :: ks) ++ rest) hj.1 hroom.1 (by omega)
      (follows_itemsChars mode (k :: ks) rest)
    have hitems := ih.items k ks room rest hj.2 hroom.2 (by omega)
    have hskip : skipSpace (chars mode k ++ itemsChars mode ks ++ rest) =
        chars mode k ++ itemsChars mode ks ++ rest := by
      rw [List.append_assoc]
      exact (startsValue_chars mode hj.2.1).skipSpace _
    rw [List.append_assoc, readItems, hvalue, itemsChars, List.cons_append]
    dsimp only
    rw [show skipSpace (',' :: (chars mode k ++ itemsChars mode ks ++ rest)) =
      ',' :: (chars mode k ++ itemsChars mode ks ++ rest) from rfl]
    split
    · rename_i heq
      exact absurd (List.cons.inj heq).1 (by decide)
    · rename_i heq
      cases heq
      rw [hskip, hitems]
    · rename_i hmark
      exact absurd rfl (hmark _)

/-- The members of an object are read up to its end. -/
theorem Inverts.members_succ (ih : Inverts loose mode fuel) (name : String) (j : Json)
    (ms acc : List (String × Json)) (room : Nat) (rest : List Char)
    (hj : MembersExact ((name, j) :: ms)) (hroom : membersDepth ((name, j) :: ms) ≤ room)
    (hnames : ((acc ++ (name, j) :: ms).map (·.1)).Nodup)
    (hfuel : 2 * (quote mode name ++ ':' :: (chars mode j ++ membersChars mode ms)).length ≤
      fuel + 1 + 1) :
    readMembers loose (fuel + 1) room acc
        (quote mode name ++ ':' :: (chars mode j ++ membersChars mode ms) ++ rest) =
      .ok (acc ++ (name, j) :: ms, rest) := by
  rw [List.length_append, List.length_cons, List.length_append] at hfuel
  rw [membersDepth, Nat.max_le] at hroom
  have hvalue := ih.value j room (membersChars mode ms ++ rest) hj.1 hroom.1 (by omega)
    (follows_membersChars mode ms rest)
  have hname : name ∉ acc.map (·.1) := by
    rw [List.map_append, List.map_cons, List.nodup_append] at hnames
    exact fun h => hnames.2.2 name h name List.mem_cons_self rfl
  rw [List.append_assoc, List.cons_append, List.append_assoc]
  match ms with
  | [] =>
    rw [readMembers_member mode hvalue hj.1 hname]
    rfl
  | (k, v) :: ms =>
    have hmembers := ih.members k v ms (acc ++ [(name, j)]) room rest hj.2 hroom.2 (by
      rw [List.append_assoc]
      exact hnames) (by
      simp only [membersChars, List.length_cons, List.length_append] at hfuel ⊢
      omega)
    have hskip : skipSpace (quote mode k ++ ':' :: (chars mode v ++ membersChars mode ms) ++ rest) =
        quote mode k ++ ':' :: (chars mode v ++ membersChars mode ms) ++ rest := by
      rw [List.append_assoc]
      exact skipSpace_quote mode k _
    rw [membersChars, List.cons_append] at hvalue ⊢
    rw [readMembers_comma mode hvalue hj.1 hname hskip, hmembers, List.append_assoc]
    rfl

end Step

theorem inverts (loose : Bool) (mode : Escaping) (fuel : Nat) : Inverts loose mode fuel := by
  induction fuel with
  | zero => exact .zero loose mode
  | succ fuel ih => exact ⟨ih.value_succ, ih.items_succ, ih.members_succ⟩

/-- A value is read back from its text. -/
theorem read_chars {limits : Limits} (mode : Escaping) {j : Json} (hj : Exact j)
    (hdepth : j.depth ≤ limits.depth) : read limits (chars mode j) = .ok j := by
  have hskip := (startsValue_chars mode hj).skipSpace []
  have hvalue := (inverts limits.loose mode (2 * (chars mode j).length + 2)).value j limits.depth []
    hj hdepth (by omega) (fun c hc => (by cases hc))
  rw [List.append_nil] at hskip hvalue
  unfold read
  rw [hskip, hvalue]
  rfl

/-! ## Bytes -/

/-- Bytes that start with a brace and a quote are UTF-8. -/
theorem Encoding.detect_object (bytes : List UInt8) :
    Encoding.detect (0x7B :: 0x22 :: bytes) = (Encoding.utf8, 0x7B :: 0x22 :: bytes) := by
  rcases bytes with _ | ⟨c, _ | ⟨d, bytes⟩⟩ <;> rfl

/-- The text of an object with members is read back from its bytes. -/
theorem decodeText?_chars (mode : Escaping) (name : String) (j : Json)
    (ms : List (String × Json)) :
    decodeText? (Text.utf8 (chars mode (.obj ((name, j) :: ms)))) =
      some (chars mode (.obj ((name, j) :: ms))) := by
  obtain ⟨rest, hchars⟩ : ∃ rest, chars mode (.obj ((name, j) :: ms)) = '\x7b' :: '"' :: rest :=
    ⟨_, rfl⟩
  have hutf8 := ofUtf8?_utf8 (chars mode (.obj ((name, j) :: ms)))
  rw [hchars] at hutf8 ⊢
  unfold decodeText?
  rw [show Text.utf8 ('\x7b' :: '"' :: rest) = 0x7B :: 0x22 :: Text.utf8 rest from rfl,
    Encoding.detect_object]
  exact hutf8

end Accounts.Json
