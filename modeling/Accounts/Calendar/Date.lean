import Accounts.Number.Decimal

/-!
# Calendar dates

Dates of the Gregorian calendar from year 1 to year 9999, and the number of days between a date
and 1970-01-01:

    dayNumber 1970 1 1 = 0
    ofDayNumber n      = the year, month and day with that number
-/

namespace Accounts.Calendar

open Number

/-! ## Algorithm -/

/-- A year with a 29th of February. -/
def isLeap (year : Nat) : Bool :=
  year % 4 == 0 && (year % 100 != 0 || year % 400 == 0)

/-- The number of days of a month from 1 to 12. -/
def daysIn (year month : Nat) : Nat :=
  if month = 2 then (if isLeap year then 29 else 28)
  else if month = 4 ∨ month = 6 ∨ month = 9 ∨ month = 11 then 30
  else 31

/-- A date that the calendar has. -/
structure Date where
  year : Nat
  month : Nat
  day : Nat
  year_range : 1 ≤ year ∧ year ≤ 9999
  month_range : 1 ≤ month ∧ month ≤ 12
  day_range : 1 ≤ day ∧ day ≤ daysIn year month
  deriving DecidableEq

/-- The date of a year, month and day. -/
def Date.of? (year month day : Nat) : Option Date :=
  if hy : 1 ≤ year ∧ year ≤ 9999 then
    if hm : 1 ≤ month ∧ month ≤ 12 then
      if hd : 1 ≤ day ∧ day ≤ daysIn year month then some ⟨year, month, day, hy, hm, hd⟩
      else none
    else none
  else none

/-- The text `YYYY-MM-DD`. -/
def Date.chars (d : Date) : List Char :=
  padded 4 d.year ++ '-' :: (padded 2 d.month ++ '-' :: padded 2 d.day)

/-- The text `YYYY-MM-DD`. -/
def Date.text (d : Date) : String := String.ofList d.chars

/-! ## Day numbers -/

/-- A year, a month and a day, in the calendar extended to all years. -/
structure Civil where
  year : Int
  month : Nat
  day : Nat
  deriving DecidableEq

/-- Split a day number.  Years are counted from March, so that a leap day ends its year, and in
eras of 400 years, which all have the same number of days. -/
def Civil.ofDayNumber (n : Int) : Civil :=
  let z := n + 719468
  let era := z.fdiv 146097
  let dayOfEra := (z - era * 146097).toNat
  let yearOfEra :=
    (dayOfEra - dayOfEra / 1460 + dayOfEra / 36524 - dayOfEra / 146096) / 365
  let dayOfYear := dayOfEra - (365 * yearOfEra + yearOfEra / 4 - yearOfEra / 100)
  let m := (5 * dayOfYear + 2) / 153
  let day := dayOfYear - (153 * m + 2) / 5 + 1
  let month := if m < 10 then m + 3 else m - 9
  let year := (yearOfEra : Int) + era * 400 + (if month ≤ 2 then 1 else 0)
  ⟨year, month, day⟩

/-- The date of a day number, when it lies in the years of the calendar. -/
def Date.ofDayNumber? (n : Int) : Option Date :=
  let c := Civil.ofDayNumber n
  Date.of? c.year.toNat c.month c.day

/-- The weekday of a day number, Monday first. -/
def weekday (n : Int) : Nat := ((n + 3).fmod 7).toNat

/-! ## Lemmas -/

theorem Date.of?_eq (d : Date) : Date.of? d.year d.month d.day = some d := by
  simp [Date.of?, d.year_range, d.month_range, d.day_range]

end Accounts.Calendar
