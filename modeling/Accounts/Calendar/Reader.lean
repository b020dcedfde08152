import Accounts.Calendar.DateTime
import Accounts.Number.Binary64
import Accounts.Number.Word
import Accounts.Text.Utf8

/-!
# Reading dates and times

A date is read from `YYYY-MM-DD`, a date and time from a date, a separator, `HH:MM`, optional
seconds with a fraction, and an optional offset.  Both are also read from a timestamp, the number
of seconds since 1970; a timestamp of more than 20 000 000 000 either way counts milliseconds.

    dateTime "2024-01-02T03:04:05Z"
    dateTime "1700000000"
-/

namespace Accounts.Calendar

open Number Text

/-! ## Faults -/

/-- Why a text is no date or time. -/
inductive Fault where
  | tooShort
  | yearDigit
  | dateSeparator
  | monthDigit
  | dayDigit
  | monthRange
  | dayRange
  | separator
  | hourDigit
  | timeSeparator
  | minuteDigit
  | hourRange
  | minuteRange
  | secondDigit
  | secondRange
  | noFraction
  | offsetSign
  | offsetHour
  | offsetMinute
  | offsetMinuteRange
  | offsetRange
  | extra
  | beforeYearZero
  | afterYear9999
  | yearZero
  | notANumber
  deriving DecidableEq, Repr

/-- The wording of a fault. -/
def Fault.message : Fault → String
  | tooShort => "input is too short"
  | yearDigit => "invalid character in year"
  | dateSeparator => "invalid date separator, expected `-`"
  | monthDigit => "invalid character in month"
  | dayDigit => "invalid character in day"
  | monthRange => "month value is outside expected range of 1-12"
  | dayRange => "day value is outside expected range"
  | separator => "invalid datetime separator, expected `T`, `t`, `_` or space"
  | hourDigit => "invalid character in hour"
  | timeSeparator => "invalid time separator, expected `:`"
  | minuteDigit => "invalid character in minute"
  | hourRange => "hour value is outside expected range of 0-23"
  | minuteRange => "minute value is outside expected range of 0-59"
  | secondDigit => "invalid character in second"
  | secondRange => "second value is outside expected range of 0-59"
  | noFraction => "second fraction value is missing"
  | offsetSign => "invalid timezone sign"
  | offsetHour => "invalid timezone hour"
  | offsetMinute => "invalid timezone minute"
  | offsetMinuteRange => "timezone minute value is outside expected range of 0-59"
  | offsetRange => "timezone offset must be less than 24 hours"
  | extra => "unexpected extra characters at the end of the input"
  | beforeYearZero => "dates before 0000 are not supported as unix timestamps"
  | afterYear9999 => "dates after 9999 are not supported as unix timestamps"
  | yearZero => "year 0 is out of range"
  | notANumber => "NaN values not permitted"

/-! ## Pieces -/

/-- So many digits, and what follows. -/
def takeDigits (fault : Fault) : Nat → Nat → List Char → Except Fault (Nat × List Char)
  | 0, value, rest => .ok (value, rest)
  | count + 1, value, c :: rest =>
    match digit? c with
    | some d => takeDigits fault count (10 * value + d) rest
    | none => .error fault
  | _ + 1, _, [] => .error fault

/-- One given character, and what follows. -/
def takeMark (fault : Fault) (mark : Char) : List Char → Except Fault (List Char)
  | c :: rest => if c = mark then .ok rest else .error fault
  | [] => .error fault

/-- Go on only when a condition holds. -/
def ensure (fault : Fault) (holds : Bool) : Except Fault Unit :=
  if holds then .ok () else .error fault

/-- The date at the front of a text. -/
def takeCivil (cs : List Char) : Except Fault (Civil × List Char) := do
  ensure .tooShort (10 ≤ byteLength cs)
  let (year, cs) ← takeDigits .yearDigit 4 0 cs
  let cs ← takeMark .dateSeparator '-' cs
  let (month, cs) ← takeDigits .monthDigit 2 0 cs
  let cs ← takeMark .dateSeparator '-' cs
  let (day, cs) ← takeDigits .dayDigit 2 0 cs
  ensure .monthRange (1 ≤ month && month ≤ 12)
  ensure .dayRange (1 ≤ day && day ≤ daysIn year month)
  return (⟨year, month, day⟩, cs)

/-- The first six places of a fraction, in microseconds. -/
def microseconds (places : List Char) : Nat :=
  ((ofDigits? ((places ++ List.replicate 6 '0').take 6)).getD 0)

/-- The fraction of a second, if a mark of a fraction comes first. -/
def takeFraction : List Char → Except Fault (Nat × List Char)
  | c :: rest =>
    if c = '.' ∨ c = ',' then
      match rest.takeWhile isDigit with
      | [] => .error .noFraction
      | places => .ok (microseconds places, rest.dropWhile isDigit)
    else .ok (0, c :: rest)
  | [] => .ok (0, [])

/-- The seconds after hours and minutes, if there are any. -/
def takeSeconds : List Char → Except Fault (Nat × Nat × List Char)
  | ':' :: rest => do
    let (sec, rest) ← takeDigits .secondDigit 2 0 rest
    ensure .secondRange (sec < 60)
    let (micro, rest) ← takeFraction rest
    return (sec, micro, rest)
  | rest => .ok (0, 0, rest)

/-- The time of day at the front of a text. -/
def takeTime (cs : List Char) : Except Fault (TimeOfDay × List Char) := do
  ensure .tooShort (5 ≤ byteLength cs)
  let (hour, cs) ← takeDigits .hourDigit 2 0 cs
  let cs ← takeMark .timeSeparator ':' cs
  let (minute, cs) ← takeDigits .minuteDigit 2 0 cs
  if hh : hour < 24 then
    if hm : minute < 60 then
      let (sec, micro, cs) ← takeSeconds cs
      return (⟨hour, minute, sec % 60, micro % 1000000, hh, hm,
        Nat.mod_lt _ (by decide), Nat.mod_lt _ (by decide)⟩, cs)
    else .error .minuteRange
  else .error .hourRange

/-- The minutes of an offset, after an optional colon. -/
def takeOffsetMinutes : List Char → Except Fault (Nat × List Char)
  | ':' :: rest => takeDigits .offsetMinute 2 0 rest
  | rest => takeDigits .offsetMinute 2 0 rest

/-- The offset at the front of a text, if there is any text. -/
def takeOffset : List Char → Except Fault (Option Offset × List Char)
  | [] => .ok (none, [])
  | c :: rest =>
    if c = 'Z' ∨ c = 'z' then .ok (some .utc, rest)
    else if c = '+' ∨ c = '-' ∨ c = '−' then do
      let (hours, rest) ← takeDigits .offsetHour 2 0 rest
      let (minutes, rest) ← takeOffsetMinutes rest
      ensure .offsetMinuteRange (minutes < 60)
      let total : Int := if c = '+' then 60 * hours + minutes else -(60 * hours + minutes : Int)
      if h : -1440 < total ∧ total < 1440 then return (some ⟨total, h⟩, rest)
      else .error .offsetRange
    else .error .offsetSign

/-! ## Timestamps -/

/-- The largest timestamp that counts seconds. -/
def secondsLimit : Int := 20000000000

/-- The whole seconds of a timestamp and the microseconds beside them. -/
def scaleTimestamp (n : Int) : Int × Int :=
  if secondsLimit < n.natAbs then (n.fdiv 1000, n.fmod 1000 * 1000) else (n, 0)

/-- The seconds of a timestamp, in the years 0 to 9999. -/
def checkSeconds (s : Int) : Except Fault Int :=
  if s < -62167219200 then .error .beforeYearZero
  else if 253402300799 < s then .error .afterYear9999
  else .ok s

/-- A date and time that may still be in year 0. -/
structure RawDateTime where
  date : Civil
  time : TimeOfDay
  offset : Option Offset

/-- The date and time of a timestamp with additional microseconds. -/
def ofTimestamp (n : Int) (micros : Nat) : Except Fault RawDateTime := do
  let (seconds, more) := scaleTimestamp n
  let total := seconds * second + more + micros
  let seconds ← checkSeconds (total.fdiv second)
  return ⟨Civil.ofDayNumber (seconds.fdiv 86400), TimeOfDay.ofInstant total, some .utc⟩

/-- A number rounded to an integer, half away from zero. -/
def roundHalfUp (num den : Nat) : Nat := (2 * num + den) / (2 * den)

/-- The date and time of a timestamp with a fraction.  The microseconds are the fraction of the
number, counted from the whole second below. -/
def ofFloatTimestamp : Binary64 → Except Fault RawDateTime
  | .nan => .error .notANumber
  | .infinite negative => ofTimestamp (if negative then wordMin 64 else wordMax 64) 0
  | .finite negative m e =>
    let (whole, part, den) := Binary64.split m e
    let floor : Int :=
      if negative then (if part = 0 then -(whole : Int) else -(whole : Int) - 1) else whole
    let scaled := Binary64.ofFraction false (part * 1000000) den
    let micros := match scaled with
      | .finite _ m e => let (n, d) := Binary64.fraction m e; roundHalfUp n d
      | _ => 0
    ofTimestamp (clampWord 64 floor) micros

/-- The instant of a number of seconds, to the nearest microsecond. -/
def instantOfFloat? : Binary64 → Option Instant
  | .finite negative m e =>
    let (whole, part, den) := Binary64.split m e
    let micros := (Binary64.ofFraction false (part * 1000000) den).nearestNat
    some (Binary64.signed negative (whole * 1000000 + micros))
  | _ => none

/-- A sign in front of a text. -/
def takeSign : List Char → Bool × List Char
  | '-' :: rest => (true, rest)
  | '+' :: rest => (false, rest)
  | rest => (false, rest)

/-- The timestamp that a text writes: digits with a sign, or digits, a point and digits. -/
inductive Timestamp where
  | whole (n : Int)
  | fractional (x : Binary64)

/-- Read a timestamp. -/
def Timestamp.ofChars? (cs : List Char) : Option Timestamp :=
  let (negative, rest) := takeSign cs
  let whole := rest.takeWhile isDigit
  match ofDigits? whole, rest.dropWhile isDigit with
  | some n, [] =>
    let n := Binary64.signed negative n
    if fitsWord 64 n then some (.whole n) else none
  | some _, '.' :: places =>
    if places.all isDigit then
      some (.fractional (Binary64.ofDecimal negative ((ofDigits? (whole ++ places)).getD 0)
        (-(places.length : Int))))
    else none
  | _, _ => none

/-- The date and time of a timestamp. -/
def Timestamp.read : Timestamp → Except Fault RawDateTime
  | whole n => ofTimestamp n 0
  | fractional x => ofFloatTimestamp x

/-! ## Whole texts -/

/-- The date that a whole text writes. -/
def readCivil (cs : List Char) : Except Fault Civil := do
  let (date, rest) ← takeCivil cs
  ensure .extra rest.isEmpty
  return date

/-- The date, separator and time that a whole text writes. -/
def readSeparated (cs : List Char) : Except Fault RawDateTime := do
  let (date, rest) ← takeCivil cs
  match rest with
  | c :: rest =>
    ensure .separator (c = 'T' || c = 't' || c = '_' || c = ' ')
    let (time, rest) ← takeTime rest
    let (offset, rest) ← takeOffset rest
    ensure .extra rest.isEmpty
    return ⟨date, time, offset⟩
  | [] => .error .separator

/-- The date and time that a text writes, a timestamp included. -/
def readDateTime (cs : List Char) : Except Fault RawDateTime :=
  match readSeparated cs with
  | .ok t => .ok t
  | .error fault =>
    match Timestamp.ofChars? cs with
    | some stamp => stamp.read
    | none => .error fault

/-- The day of a timestamp of its midnight; milliseconds are not looked at. -/
def timestampDay (n : Int) : Except Fault (Option Civil) := do
  let s ← checkSeconds (scaleTimestamp n).1
  return if s.fmod 86400 = 0 then some (Civil.ofDayNumber (s.fdiv 86400)) else none

/-- The date that a text writes, alone or as the timestamp of a day. -/
def readDay (cs : List Char) : Except Fault Civil :=
  match readCivil cs, Timestamp.ofChars? cs with
  | .ok c, _ => .ok c
  | .error fault, some (.whole n) =>
    match timestampDay n with
    | .ok (some c) => .ok c
    | .ok none => .error fault
    | .error range => .error range
  | .error fault, _ => .error fault

/-- A date without the year 0. -/
def Civil.date? (c : Civil) : Option Date := Date.of? c.year.toNat c.month c.day

/-- A date and time without the year 0. -/
def RawDateTime.dateTime? (t : RawDateTime) : Option DateTime :=
  t.date.date?.map fun d => ⟨d, t.time, t.offset⟩

end Accounts.Calendar
