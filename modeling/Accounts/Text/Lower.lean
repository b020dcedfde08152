import Accounts.Text.Casing

/-!
# Lowercase

Full lowercase of a text.  Every character is mapped on its own, with two exceptions: capital I
with a dot becomes two characters, and a capital sigma becomes a final sigma when it ends a word.

    lower "ΟΔΟΣ İ" = "οδος i̇"
-/

namespace Accounts.Text

/-! ## Algorithm -/

/-- The code point of the simple lowercase form. -/
def lowerCode (n : Nat) : Nat :=
  match lowercaseRuns.find? (·.has n) with
  | some r => ((n : Int) + r.shift).toNat
  | none => n

/-- The lowercase form that needs no context. -/
def lowerChar (c : Char) : Char := Char.ofNat (lowerCode c.toNat)

/-- The first character that is not case-ignorable is cased. -/
def meetsCased (cs : List Char) : Bool :=
  match cs.dropWhile caseIgnorable.has with
  | c :: _ => cased.has c
  | [] => false

/-- A sigma ends a word when letters come before it and none after it.  `before` is the text on
the left, nearest character first. -/
def endsWord (before after : List Char) : Bool :=
  meetsCased before && !meetsCased after

/-- The lowercase form of a character between its two contexts. -/
def lowerAt (before : List Char) (c : Char) (after : List Char) : List Char :=
  if c = 'İ' then ['i', '\u0307']
  else if c = 'Σ' then [if endsWord before after then 'ς' else 'σ']
  else [lowerChar c]

/-- Lowercase from a given left context on. -/
def lowerFrom (before : List Char) : List Char → List Char
  | [] => []
  | c :: after => lowerAt before c after ++ lowerFrom (c :: before) after

/-- The text in lowercase. -/
def lower (s : String) : String := String.ofList (lowerFrom [] s.toList)

end Accounts.Text
