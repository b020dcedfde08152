import Accounts.Input.Problem
import Accounts.Json.Basic
import Accounts.Text.Blank

/-!
# Reading single values

Texts are read from JSON strings only; numbers, dates, times and identifiers also from texts that
write them, and dates and times from timestamps.
-/

namespace Accounts.Input

open Calendar Number Text

/-- A text, which may be broken. -/
def text : Json → Checked LooseText
  | .str s => .ok { chars := s }
  | .brokenStr s => .ok { chars := s, isWhole := false }
  | _ => .fail .notText

/-- A text that is not broken. -/
def wholeText : Json → Checked String
  | .str s => .ok s
  | _ => .fail .notText

/-! ## Integers -/

/-- Digits with single underscores between them. -/
def plainDigits? (cs : List Char) : Option (List Char) :=
  let groups := cs.splitOn '_'
  if groups.all fun g => !g.isEmpty && g.all isDigit then some groups.flatten else none

/-- A decimal integer with an optional sign and an optional fraction of zeros. -/
def integerOfChars? (cs : List Char) : Option Int :=
  let (negative, rest) := takeSign cs
  let value (ds : List Char) : Option Int :=
    ((plainDigits? ds).bind ofDigits?).map (Binary64.signed negative)
  match rest.splitOn '.' with
  | [whole] => value whole
  | [whole, zeros] => if !zeros.isEmpty && zeros.all (· == '0') then value whole else none
  | _ => none

/-- The longest text that is read as an integer. -/
def maxIntegerText : Nat := 4300

/-- The integer that a text writes. -/
def integerOfText (s : String) : Checked Int :=
  let cs := trimList isWhiteSpace s.toList
  if maxIntegerText < cs.length then .fail .integerSize
  else
    match integerOfChars? cs with
    | some n => .ok n
    | none => .fail .integerSyntax

/-- The integer that a floating point number is equal to. -/
def integerOfFloat (x : Binary64) : Checked Int :=
  match x with
  | .finite .. =>
    match x.integer? with
    | some n => if fitsWord 64 n then .ok n else .fail .integerSize
    | none => .fail .integerFraction
  | _ => .fail .notFinite

/-- An integer. -/
def integer : Json → Checked Int
  | .int n => .ok n
  | .bool b => .ok (if b then 1 else 0)
  | .float x => integerOfFloat x
  | .str s => integerOfText s
  | .brokenStr _ => .fail .integerSyntax
  | _ => .fail .notInteger

/-! ## Dates and times -/

/-- The timestamp of a number, as a date and time. -/
def ofNumber? : Json → Option (Except Fault RawDateTime)
  | .int n =>
    if fitsWord 64 n then some (ofTimestamp n 0)
    else some (ofFloatTimestamp (Binary64.ofInt n))
  | .float x => some (ofFloatTimestamp x)
  | _ => none

/-- A date without the year 0. -/
def dateOfCivil (c : Civil) : Checked Date :=
  match c.date? with
  | some d => .ok d
  | none => .fail .dateYear

/-- The date of a date and time at midnight. -/
def dateOfDateTime (t : Except Fault RawDateTime) : Checked Date :=
  match t with
  | .error fault => .fail (.dateSyntax fault)
  | .ok t => if t.time = .midnight then dateOfCivil t.date else .fail .dateWithTime

/-- The date that a text writes, alone, as a timestamp of a day, or with the time of midnight. -/
def dateOfText (cs : List Char) : Checked Date :=
  match readDay cs with
  | .ok c => dateOfCivil c
  | .error _ => dateOfDateTime (readDateTime cs)

/-- A date. -/
def date (j : Json) : Checked Date :=
  match j with
  | .str s => dateOfText s.toList
  | .brokenStr s => dateOfText s.toList
  | _ =>
    match ofNumber? j with
    | some t => dateOfDateTime t
    | none => .fail .notDate

/-- A date and time without the year 0. -/
def dateTimeOfRaw (t : RawDateTime) : Checked DateTime :=
  match t.dateTime? with
  | some t => .ok t
  | none => .fail (.dateTimeRange .yearZero)

/-- The date and time that a text writes; a date alone is its midnight. -/
def dateTimeOfText (cs : List Char) : Checked DateTime :=
  match readDateTime cs with
  | .ok t => dateTimeOfRaw t
  | .error _ =>
    match readDay cs with
    | .ok c => dateTimeOfRaw ⟨c, .midnight, none⟩
    | .error fault => .fail (.dateTimeSyntax fault)

/-- A date and time. -/
def dateTime (j : Json) : Checked DateTime :=
  match j with
  | .str s => dateTimeOfText s.toList
  | .brokenStr s => dateTimeOfText s.toList
  | _ =>
    match ofNumber? j with
    | some (.ok t) => dateTimeOfRaw t
    | some (.error fault) => .fail (.dateTimeRange fault)
    | none => .fail .notDateTime

/-! ## Identifiers -/

/-- An identifier. -/
def uuid : Json → Checked Uuid
  | .str s =>
    match Uuid.read s with
    | .ok u => .ok u
    | .error fault => .fail (.uuidSyntax fault)
  | .brokenStr s => .fail (.uuidSyntax (Uuid.faultOf s.toList))
  | _ => .fail .notUuid

/-! ## Fields -/

/-- A value or null. -/
def orNull (read : Json → Checked α) : Json → Checked (Option α)
  | .null => .ok none
  | j => (read j).map some

/-- A member that has to be there. -/
def required (read : Json → Checked α) (name : String) (members : List (String × Json)) :
    Checked α :=
  match Json.member? name members with
  | some j => (read j).at name
  | none => (Checked.fail .missing).at name

/-- A member with a value to use when it is not there. -/
def withDefault (value : α) (read : Json → Checked α) (name : String)
    (members : List (String × Json)) : Checked α :=
  match Json.member? name members with
  | some j => (read j).at name
  | none => .ok value

/-- A member that may be null or not be there. -/
def optional (read : Json → Checked α) : String → List (String × Json) → Checked (Option α) :=
  withDefault none (orNull read)

end Accounts.Input
