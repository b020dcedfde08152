import Accounts.Calendar.Reader
import Accounts.Input.Scalar
import Accounts.Proofs.Number.Decimal

/-!
# Dates and times, written and read back

Dates and dates with a time are read back from their texts, to the microsecond and with their
offset from UTC:

    Input.dateOfText d.chars = .ok d
    Input.dateTimeOfText (t.chars spelling) = .ok t
-/

namespace Accounts

namespace Calendar

open Number Text

/-! ## Pieces -/

theorem length_le_byteLength (cs : List Char) : cs.length ≤ byteLength cs := by
  induction cs with
  | nil => exact Nat.le_refl 0
  | cons c cs ih =>
    have hc : 0 < (String.utf8EncodeChar c).length :=
      List.length_pos_iff.2 String.utf8EncodeChar_ne_nil
    have htail : cs.length ≤ (utf8 cs).length := ih
    show cs.length + 1 ≤ (String.utf8EncodeChar c ++ utf8 cs).length
    rw [List.length_append]
    omega

theorem takeDigits_of_readDigits (fault : Fault) {value n : Nat} {cs : List Char}
    (h : readDigits value cs = some n) (rest : List Char) :
    takeDigits fault cs.length value (cs ++ rest) = .ok (n, rest) := by
  induction cs generalizing value with
  | nil =>
    cases h
    rfl
  | cons c cs ih =>
    rw [readDigits] at h
    rw [List.length_cons, List.cons_append, takeDigits]
    rcases hd : digit? c with _ | d
    · rw [hd] at h
      cases h
    · rw [hd] at h
      exact ih h

/-- A number is taken from the front of a text that starts with its places. -/
theorem takeDigits_padded (fault : Fault) {width n : Nat} (hw : 0 < width) (h : n < 10 ^ width)
    (rest : List Char) : takeDigits fault width 0 (padded width n ++ rest) = .ok (n, rest) := by
  have htake := takeDigits_of_readDigits fault (readDigits_padded width n) rest
  rwa [length_padded hw h] at htake

theorem takeMark_self (fault : Fault) (mark : Char) (rest : List Char) :
    takeMark fault mark (mark :: rest) = .ok rest := if_pos rfl

theorem ensure_of (fault : Fault) {holds : Bool} (h : holds = true) :
    ensure fault holds = .ok () := by
  rw [ensure, if_pos h]

theorem ok_bind (a : α) (f : α → Except Fault β) : (Except.ok a >>= f) = f a := rfl

/-! ## Dates -/

theorem daysIn_le (year month : Nat) : daysIn year month ≤ 31 := by
  unfold daysIn
  split
  · split <;> decide
  · split <;> decide

/-- The year, month and day of a date. -/
def Date.civil (d : Date) : Civil := ⟨d.year, d.month, d.day⟩

theorem Date.length_chars (d : Date) : d.chars.length = 10 := by
  obtain ⟨hy, hy'⟩ := d.year_range
  obtain ⟨hm, hm'⟩ := d.month_range
  obtain ⟨hd, hd'⟩ := d.day_range
  have := daysIn_le d.year d.month
  unfold chars
  rw [List.length_append, List.length_cons, List.length_append, List.length_cons,
    length_padded (by decide) (by omega), length_padded (by decide) (by omega),
    length_padded (by decide) (by omega)]

/-- A date is taken from the front of a text that starts with it. -/
theorem takeCivil_chars (d : Date) (rest : List Char) :
    takeCivil (d.chars ++ rest) = .ok (d.civil, rest) := by
  obtain ⟨hy, hy'⟩ := d.year_range
  obtain ⟨hm, hm'⟩ := d.month_range
  obtain ⟨hd, hd'⟩ := d.day_range
  have hdays := daysIn_le d.year d.month
  have hlong : decide (10 ≤ byteLength (d.chars ++ rest)) = true := by
    have hlength := length_le_byteLength (d.chars ++ rest)
    rw [List.length_append, d.length_chars] at hlength
    exact decide_eq_true (by omega)
  have hmonth : (decide (1 ≤ d.month) && decide (d.month ≤ 12)) = true := by
    rw [decide_eq_true hm, decide_eq_true hm']
    rfl
  have hday : (decide (1 ≤ d.day) && decide (d.day ≤ daysIn d.year d.month)) = true := by
    rw [decide_eq_true hd, decide_eq_true hd']
    rfl
  unfold takeCivil
  rw [ensure_of _ hlong, ok_bind, Date.chars, List.append_assoc, List.cons_append,
    List.append_assoc, List.cons_append, takeDigits_padded _ (by decide) (by omega), ok_bind]
  dsimp only
  rw [takeMark_self, ok_bind, takeDigits_padded _ (by decide) (by omega), ok_bind]
  dsimp only
  rw [takeMark_self, ok_bind, takeDigits_padded _ (by decide) (by omega), ok_bind]
  dsimp only
  rw [ensure_of _ hmonth, ok_bind, ensure_of _ hday, ok_bind]
  rfl

theorem date?_civil (d : Date) : d.civil.date? = some d := by
  show Date.of? (d.year : Int).toNat d.month d.day = some d
  rw [Int.toNat_natCast, Date.of?_eq]

theorem readCivil_chars (d : Date) : readCivil d.chars = .ok d.civil := by
  have htake := takeCivil_chars d []
  rw [List.append_nil] at htake
  unfold readCivil
  rw [htake, ok_bind]
  rfl

theorem readDay_chars (d : Date) : readDay d.chars = .ok d.civil := by
  unfold readDay
  rw [readCivil_chars]

/-! ## Times of day -/

/-- A text goes on with neither a digit nor a mark of a fraction. -/
def EndsTime (rest : List Char) : Prop :=
  EndsDigits rest ∧ rest.head? ≠ some '.' ∧ rest.head? ≠ some ','

theorem takeFraction_none {rest : List Char} (h : EndsTime rest) :
    takeFraction rest = .ok (0, rest) := by
  rcases rest with _ | ⟨c, rest⟩
  · rfl
  · have hpoint : ¬ (c = '.' ∨ c = ',') := by
      rintro (rfl | rfl)
      · exact h.2.1 rfl
      · exact h.2.2 rfl
    rw [takeFraction, if_neg hpoint]

theorem microseconds_padded {n : Nat} (h : n < 1000000) : microseconds (padded 6 n) = n := by
  have hlength : (padded 6 n).length = 6 := length_padded (by decide) h
  unfold microseconds
  rw [List.take_append_of_le_length (by omega), List.take_of_length_le (by omega),
    ofDigits?_eq_readDigits (padded_ne_nil 6 n), readDigits_padded]
  rfl

theorem takeFraction_padded {n : Nat} (hn : n < 1000000) {rest : List Char} (h : EndsTime rest) :
    takeFraction ('.' :: (padded 6 n ++ rest)) = .ok (n, rest) := by
  have hplaces := takeWhile_isDigit (all_isDigit_padded 6 n) h.1
  have hrest := dropWhile_isDigit (all_isDigit_padded 6 n) h.1
  rw [takeFraction, if_pos (.inl rfl), hplaces, hrest]
  rcases hp : padded 6 n with _ | ⟨c, cs⟩
  · exact absurd hp (padded_ne_nil 6 n)
  · dsimp only
    rw [← hp, microseconds_padded hn]

theorem TimeOfDay.five_le_length (t : TimeOfDay) (rest : List Char) :
    5 ≤ (t.chars ++ rest).length := by
  have hh := t.hour_lt
  have hm := t.minute_lt
  unfold chars
  rw [List.append_assoc, List.cons_append, List.append_assoc, List.cons_append, List.length_append,
    List.length_cons, List.length_append, List.length_cons, length_padded (by decide) (by omega),
    length_padded (by decide) (by omega)]
  omega

/-- The seconds and their fraction are taken from the front of a text that starts with them. -/
theorem takeSeconds_chars (t : TimeOfDay) {rest : List Char} (h : EndsTime rest) :
    takeSeconds (':' :: (padded 2 t.sec
      ++ (if t.micro = 0 then [] else '.' :: padded 6 t.micro) ++ rest))
      = .ok (t.sec, t.micro, rest) := by
  have hs := t.sec_lt
  rw [List.append_assoc, takeSeconds, takeDigits_padded _ (by decide) (by omega), ok_bind]
  dsimp only
  rw [ensure_of _ (decide_eq_true hs), ok_bind]
  by_cases hmicro : t.micro = 0
  · rw [if_pos hmicro, List.nil_append, takeFraction_none h, ok_bind, hmicro]
    rfl
  · rw [if_neg hmicro, List.cons_append, takeFraction_padded t.micro_lt h, ok_bind]
    rfl

/-- A time of day is taken from the front of a text that starts with it. -/
theorem takeTime_chars (t : TimeOfDay) {rest : List Char} (h : EndsTime rest) :
    takeTime (t.chars ++ rest) = .ok (t, rest) := by
  have hh := t.hour_lt
  have hm := t.minute_lt
  have hlong : decide (5 ≤ byteLength (t.chars ++ rest)) = true :=
    decide_eq_true (Nat.le_trans (t.five_le_length rest) (length_le_byteLength _))
  unfold takeTime
  rw [ensure_of _ hlong, ok_bind, TimeOfDay.chars, List.append_assoc, List.cons_append,
    List.append_assoc, List.cons_append, takeDigits_padded _ (by decide) (by omega), ok_bind]
  dsimp only
  rw [takeMark_self, ok_bind, takeDigits_padded _ (by decide) (by omega), ok_bind]
  dsimp only
  rw [dif_pos hh, dif_pos hm, takeSeconds_chars t h, ok_bind]
  dsimp only
  show Except.ok _ = Except.ok _
  congr 2
  rcases t with ⟨hour, minute, sec, micro, _, _, hs, hmicro⟩
  simp only [TimeOfDay.mk.injEq, true_and]
  exact ⟨Nat.mod_eq_of_lt hs, Nat.mod_eq_of_lt hmicro⟩

/-! ## Offsets -/

theorem takeOffset_signed {c : Char} (hc : c = '+' ∨ c = '-') {hours minutes : Nat}
    (hh : hours < 10 ^ 2) (hm : minutes < 60) {total : Int}
    (htotal : (if c = '+' then 60 * (hours : Int) + minutes else -(60 * hours + minutes : Int)) = total)
    (hrange : -1440 < total ∧ total < 1440) :
    takeOffset (c :: (padded 2 hours ++ ':' :: padded 2 minutes)) = .ok (some ⟨total, hrange⟩, []) := by
  have hletter : ¬ (c = 'Z' ∨ c = 'z') := by
    rcases hc with rfl | rfl <;> decide
  have hsign : c = '+' ∨ c = '-' ∨ c = '−' := by
    rcases hc with rfl | rfl
    · exact .inl rfl
    · exact .inr (.inl rfl)
  have hplace : takeDigits .offsetMinute 2 0 (padded 2 minutes) = .ok (minutes, []) := by
    have hm' : minutes < 10 ^ 2 := by omega
    have htake := takeDigits_padded .offsetMinute (by decide) hm' []
    rwa [List.append_nil] at htake
  rw [takeOffset, if_neg hletter, if_pos hsign, takeDigits_padded _ (by decide) hh, ok_bind]
  dsimp only
  rw [takeOffsetMinutes, hplace, ok_bind]
  dsimp only
  rw [ensure_of _ (decide_eq_true hm), ok_bind]
  simp only [htotal]
  rw [dif_pos hrange]
  rfl

/-- An offset is read back from its text. -/
theorem takeOffset_chars (spelling : UtcSpelling) (o : Offset) :
    takeOffset (o.chars spelling) = .ok (some o, []) := by
  obtain ⟨hlow, hhigh⟩ := o.range
  unfold Offset.chars
  by_cases hz : o.minutes = 0 ∧ spelling = .letter
  · rw [if_pos hz]
    show Except.ok (some Offset.utc, []) = _
    rcases o with ⟨minutes, range⟩
    obtain ⟨rfl, -⟩ := hz
    rfl
  · rw [if_neg hz]
    by_cases hsign : o.minutes < 0
    · rw [if_pos hsign]
      exact takeOffset_signed (.inr rfl) (by omega) (by omega)
        (by rw [if_neg (by decide)]; omega) o.range
    · rw [if_neg hsign]
      exact takeOffset_signed (.inl rfl) (by omega) (by omega) (by rw [if_pos rfl]; omega) o.range

theorem endsTime_offset (spelling : UtcSpelling) (offset : Option Offset) :
    EndsTime ((offset.map (Offset.chars spelling)).getD []) := by
  have hends (c : Char) (cs : List Char) (hc : c = 'Z' ∨ c = '-' ∨ c = '+') : EndsTime (c :: cs) := by
    refine ⟨fun d hd => ?_, fun hd => ?_, fun hd => ?_⟩
    · cases hd
      rcases hc with rfl | rfl | rfl <;> decide
    · cases hd
      rcases hc with h | h | h <;> exact absurd h (by decide)
    · cases hd
      rcases hc with h | h | h <;> exact absurd h (by decide)
  rcases offset with _ | o
  · exact ⟨fun d hd => (by cases hd), fun hd => (by cases hd), fun hd => (by cases hd)⟩
  · show EndsTime (o.chars spelling)
    unfold Offset.chars
    split
    · exact hends _ _ (.inl rfl)
    · split
      · exact hends _ _ (.inr (.inl rfl))
      · exact hends _ _ (.inr (.inr rfl))

/-! ## Whole texts -/

theorem readSeparated_chars (spelling : UtcSpelling) (t : DateTime) :
    readSeparated (t.chars spelling) = .ok ⟨t.date.civil, t.time, t.offset⟩ := by
  unfold readSeparated DateTime.chars
  rw [takeCivil_chars, ok_bind]
  dsimp only
  rw [ensure_of _ (by decide), ok_bind, takeTime_chars t.time (endsTime_offset spelling t.offset),
    ok_bind]
  dsimp only
  rcases t.offset with _ | o
  · rfl
  · rw [Option.map_some, Option.getD_some, takeOffset_chars, ok_bind]
    rfl

end Calendar

namespace Input

open Calendar

/-- A date is read back from its text. -/
theorem dateOfText_chars (d : Date) : dateOfText d.chars = .ok d := by
  unfold dateOfText
  rw [readDay_chars]
  dsimp only
  unfold dateOfCivil
  rw [date?_civil]

/-- A date and time is read back from its text. -/
theorem dateTimeOfText_chars (spelling : UtcSpelling) (t : DateTime) :
    dateTimeOfText (t.chars spelling) = .ok t := by
  unfold dateTimeOfText readDateTime
  rw [readSeparated_chars]
  dsimp only
  unfold dateTimeOfRaw RawDateTime.dateTime?
  rw [date?_civil]
  rfl

end Input

end Accounts
