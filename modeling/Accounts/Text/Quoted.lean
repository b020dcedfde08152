import Accounts.Unicode.Category

/-!
# Texts quoted in messages

A text between quotes: double ones when it holds a single quote but no double one, single ones
otherwise.  What does not show as a sign of its own is escaped.
-/

namespace Accounts.Text

/-- A character that shows as a sign of its own, or a space. -/
def isPrintable (c : Char) : Bool := c = ' ' || Unicode.isGraphic c || Unicode.isMark c

/-- A character between given quotes. -/
def quoteChar (mark c : Char) : List Char :=
  if c = mark ∨ c = '\\' then ['\\', c]
  else if c = '\n' then ['\\', 'n']
  else if c = '\r' then ['\\', 'r']
  else if c = '\t' then ['\\', 't']
  else if isPrintable c then [c]
  else if c.toNat < 0x100 then '\\' :: 'x' :: hexPlaces 2 c.toNat
  else if c.toNat < 0x10000 then '\\' :: 'u' :: hexPlaces 4 c.toNat
  else '\\' :: 'U' :: hexPlaces 8 c.toNat

/-- The quotes of a text. -/
def quoteMark (cs : List Char) : Char :=
  if cs.contains '\'' ∧ ¬ cs.contains '"' then '"' else '\''

/-- A text between quotes. -/
def quoted (cs : List Char) : List Char :=
  let mark := quoteMark cs
  mark :: (cs.flatMap (quoteChar mark) ++ [mark])

/-- A list of texts between brackets. -/
def quotedList (ss : List String) : String :=
  "[" ++ String.intercalate ", " (ss.map fun s => String.ofList (quoted s.toList)) ++ "]"

end Accounts.Text
