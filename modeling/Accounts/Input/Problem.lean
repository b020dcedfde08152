import Accounts.Calendar.Reader
import Accounts.Uuid.Reader

/-!
# Problems with input

What is wrong with a value that was to be read as a field: the path of the field and the cause.
Every cause has a code for programs and a message for people.
-/

namespace Accounts.Input

/-- Why a value cannot be read. -/
inductive Cause where
  | missing
  | notText
  | notInteger
  | integerSyntax
  | integerSize
  | integerFraction
  | notFinite
  | notDate
  | dateYear
  | dateSyntax (fault : Calendar.Fault)
  | dateWithTime
  | notDateTime
  | dateTimeSyntax (fault : Calendar.Fault)
  | dateTimeRange (fault : Calendar.Fault)
  | notUuid
  | uuidSyntax (fault : Uuid.Fault)
  | notRecord (name : String)
  | notObject
  | notJson
  | booleanSyntax
  | numberSyntax
  | refused (reason : String)
  deriving DecidableEq

/-- The code of a cause. -/
def Cause.code : Cause → String
  | missing => "missing"
  | notText => "string_type"
  | notInteger => "int_type"
  | integerSyntax => "int_parsing"
  | integerSize => "int_parsing_size"
  | integerFraction => "int_from_float"
  | notFinite => "finite_number"
  | notDate => "date_type"
  | dateYear => "date_parsing"
  | dateSyntax _ => "date_from_datetime_parsing"
  | dateWithTime => "date_from_datetime_inexact"
  | notDateTime => "datetime_type"
  | dateTimeSyntax _ => "datetime_from_date_parsing"
  | dateTimeRange _ => "datetime_parsing"
  | notUuid => "uuid_type"
  | uuidSyntax _ => "uuid_parsing"
  | notRecord _ => "model_type"
  | notObject => "model_attributes_type"
  | notJson => "json_invalid"
  | booleanSyntax => "bool_parsing"
  | numberSyntax => "float_parsing"
  | refused _ => "value_error"

/-- The wording of a cause. -/
def Cause.message : Cause → String
  | missing => "Field required"
  | notText => "Input should be a valid string"
  | notInteger => "Input should be a valid integer"
  | integerSyntax => "Input should be a valid integer, unable to parse string as an integer"
  | integerSize => "Unable to parse input string as an integer, exceeded maximum size"
  | integerFraction => "Input should be a valid integer, got a number with a fractional part"
  | notFinite => "Input should be a finite number"
  | notDate => "Input should be a valid date"
  | dateYear => "Input should be a valid date in the format YYYY-MM-DD, "
      ++ Calendar.Fault.yearZero.message
  | dateSyntax fault => "Input should be a valid date or datetime, " ++ fault.message
  | dateWithTime => "Datetimes provided to dates should have zero time - e.g. be exact dates"
  | notDateTime => "Input should be a valid datetime"
  | dateTimeSyntax fault => "Input should be a valid datetime or date, " ++ fault.message
  | dateTimeRange fault => "Input should be a valid datetime, " ++ fault.message
  | notUuid => "UUID input should be a string, bytes or UUID object"
  | uuidSyntax fault => "Input should be a valid UUID, " ++ fault.message
  | notRecord name => "Input should be a valid dictionary or instance of " ++ name
  | notObject => "Input should be a valid dictionary or object to extract fields from"
  | notJson => "JSON decode error"
  | booleanSyntax => "Input should be a valid boolean, unable to interpret input"
  | numberSyntax => "Input should be a valid number, unable to parse string as a number"
  | refused reason => "Value error, " ++ reason

/-- A cause at a place in the input. -/
structure Problem where
  path : List String
  cause : Cause
  deriving DecidableEq

/-! ## Collecting problems -/

/-- A value, or all the problems on the way to it. -/
abbrev Checked (α : Type) := Except (List Problem) α

/-- A value without problems. -/
def Checked.of (a : α) : Checked α := .ok a

/-- A value of a field read at its own place. -/
def Checked.at (name : String) : Checked α → Checked α
  | .ok a => .ok a
  | .error ps => .error (ps.map fun p => { p with path := name :: p.path })

/-- Apply a function to a value; the problems of both are kept, in order. -/
def Checked.apply (f : Checked (α → β)) (x : Checked α) : Checked β :=
  match f, x with
  | .ok f, .ok a => .ok (f a)
  | .error ps, .ok _ => .error ps
  | .ok _, .error qs => .error qs
  | .error ps, .error qs => .error (ps ++ qs)

/-- One problem with the value itself. -/
def Checked.fail (cause : Cause) : Checked α := .error [⟨[], cause⟩]

end Accounts.Input
