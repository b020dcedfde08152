import Accounts.Calendar.Date

/-!
# Dates with a time of day

A date and a time of day to the microsecond, with the offset from UTC when it is known.  Points
in time are counted in microseconds since 1970-01-01 in UTC.
-/

namespace Accounts.Calendar

open Number

/-- Microseconds since 1970-01-01 in UTC. -/
abbrev Instant := Int

/-- The microseconds of a second. -/
def second : Int := 1000000

/-- The last whole second that is not after an instant. -/
def Instant.seconds (t : Instant) : Int := t.fdiv second

/-- A time of day. -/
structure TimeOfDay where
  hour : Nat
  minute : Nat
  sec : Nat
  micro : Nat
  hour_lt : hour < 24
  minute_lt : minute < 60
  sec_lt : sec < 60
  micro_lt : micro < 1000000
  deriving DecidableEq

/-- The start of a day. -/
def TimeOfDay.midnight : TimeOfDay := ⟨0, 0, 0, 0, by decide, by decide, by decide, by decide⟩

/-- The time of day of an instant. -/
def TimeOfDay.ofInstant (t : Instant) : TimeOfDay :=
  let n := (t.fmod (86400 * second)).toNat
  ⟨n / 3600000000 % 24, n / 60000000 % 60, n / 1000000 % 60, n % 1000000,
    Nat.mod_lt _ (by decide), Nat.mod_lt _ (by decide), Nat.mod_lt _ (by decide),
    Nat.mod_lt _ (by decide)⟩

/-- An offset from UTC of less than a day, in minutes. -/
structure Offset where
  minutes : Int
  range : -1440 < minutes ∧ minutes < 1440
  deriving DecidableEq

/-- The offset of UTC itself. -/
def Offset.utc : Offset := ⟨0, by decide⟩

/-- A date, a time of day and the offset from UTC, if it is known. -/
structure DateTime where
  date : Date
  time : TimeOfDay
  offset : Option Offset
  deriving DecidableEq

/-! ## Text -/

/-- The time of day, with six places of fraction unless the fraction is zero. -/
def TimeOfDay.chars (t : TimeOfDay) : List Char :=
  padded 2 t.hour ++ ':' :: (padded 2 t.minute ++ ':' :: (padded 2 t.sec
    ++ if t.micro = 0 then [] else '.' :: padded 6 t.micro))

/-- How the offset of UTC is written. -/
inductive UtcSpelling where
  | letter
  | digits
  deriving DecidableEq

/-- The offset after a time of day. -/
def Offset.chars (spelling : UtcSpelling) (o : Offset) : List Char :=
  if o.minutes = 0 ∧ spelling = .letter then ['Z']
  else
    (if o.minutes < 0 then '-' else '+')
      :: (padded 2 (o.minutes.natAbs / 60) ++ ':' :: padded 2 (o.minutes.natAbs % 60))

/-- The text `YYYY-MM-DDTHH:MM:SS`, with a fraction and an offset where there are any. -/
def DateTime.chars (spelling : UtcSpelling) (t : DateTime) : List Char :=
  t.date.chars ++ 'T' :: (t.time.chars ++ (t.offset.map (Offset.chars spelling)).getD [])

/-- The text of a date and time. -/
def DateTime.text (spelling : UtcSpelling) (t : DateTime) : String :=
  String.ofList (t.chars spelling)

/-! ## Instants -/

/-- The date and time of an instant, without mention of its offset. -/
def DateTime.ofInstant? (offset : Option Offset) (t : Instant) : Option DateTime :=
  (Date.ofDayNumber? (t.fdiv (86400 * second))).map fun d => ⟨d, TimeOfDay.ofInstant t, offset⟩

/-- The names of the weekdays in messages between programs, Monday first. -/
def weekdayNames : List String := ["Mon", "Tue", "Wed", "Thu", "Fri", "Sat", "Sun"]

/-- The names of the months in messages between programs. -/
def monthNames : List String :=
  ["Jan", "Feb", "Mar", "Apr", "May", "Jun", "Jul", "Aug", "Sep", "Oct", "Nov", "Dec"]

/-- The text `Tue, 14 Nov 2023 22:13:20 GMT` of an instant. -/
def messageDate (t : Instant) : String :=
  let day := t.fdiv (86400 * second)
  let c := Civil.ofDayNumber day
  let time := TimeOfDay.ofInstant t
  weekdayNames.getD (weekday day) "" ++ ", "
    ++ String.ofList (padded 2 c.day) ++ " " ++ monthNames.getD (c.month - 1) "" ++ " "
    ++ String.ofList (padded 4 c.year.toNat ++ ' ' :: (padded 2 time.hour ++ ':' ::
      (padded 2 time.minute ++ ':' :: padded 2 time.sec))) ++ " GMT"

end Accounts.Calendar
