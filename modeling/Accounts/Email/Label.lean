import Accounts.Email.Punycode
import Accounts.Unicode.Category
import Accounts.Unicode.LabelClass
import Accounts.Unicode.Normal

/-!
# Labels of domain names

A label of an international domain name is valid when it is in composed form, has its hyphens in
the permitted places, starts with a character that is no mark, holds permitted characters only,
and does not mix directions.  Such a label has an ASCII form that starts with `xn--`.
-/

namespace Accounts.Email

open Text Unicode

/-! ## Characters in context -/

/-- The combining class of the marks that make a half form. -/
def viramaClass : Nat := 9

/-- A mark that makes a half form comes before. -/
def afterVirama : List Char → Bool
  | c :: _ => combiningClass c.toNat == viramaClass
  | [] => false

/-- The first character that joining does not pass over is in a class. -/
def meetsJoining (p : Char → Bool) (cs : List Char) : Bool :=
  match cs.dropWhile joinsThrough.has with
  | c :: _ => p c
  | [] => false

/-- The first character of a text is in a class. -/
def startsIn (p : Char → Bool) : List Char → Bool
  | c :: _ => p c
  | [] => false

/-- The digits of two rows that must not be mixed in a label. -/
def isArabicIndic (c : Char) : Bool := 0x660 ≤ c.toNat && c.toNat ≤ 0x669

/-- The other row of digits. -/
def isExtendedArabicIndic (c : Char) : Bool := 0x6F0 ≤ c.toNat && c.toNat ≤ 0x6F9

/-- A character may stand between the text before it, nearest first, and the text after it. -/
def fitsContext (label before : List Char) (c : Char) (after : List Char) : Bool :=
  if c = '\u200c' then
    afterVirama before ||
      (meetsJoining (fun d => joinsNext.has d || joinsBoth.has d) before
        && meetsJoining (fun d => joinsPrevious.has d || joinsBoth.has d) after)
  else if c = '\u200d' then afterVirama before
  else if c = '·' then startsIn (· == 'l') before && startsIn (· == 'l') after
  else if c = '\u0375' then startsIn greek.has after
  else if c = '\u05f3' ∨ c = '\u05f4' then startsIn hebrew.has before
  else if c = '\u30fb' then label.any fun d => d != c && kanaOrHan.has d
  else if isArabicIndic c then !label.any isExtendedArabicIndic
  else if isExtendedArabicIndic c then !label.any isArabicIndic
  else isPermitted c

/-- All characters of a label fit. -/
def allFit (label : List Char) : List Char → List Char → Bool
  | _, [] => true
  | before, c :: after => fitsContext label before c after && allFit label (c :: before) after

/-! ## Directions -/

/-- A label with characters that run from right to left starts with a letter of that direction,
has no letter of the other, ends with a letter or number, and has numbers of one kind. -/
def directionsAgree (label : List Char) : Bool :=
  let ds := label.map direction
  if ds.any Direction.isRight then
    let starts := match ds with
      | d :: _ => d == .right || d == .arabic
      | [] => false
    let ends := match ds.reverse.dropWhile (· == .mark) with
      | d :: _ => d.isRight || d == .number
      | [] => false
    starts && !ds.contains .left && ends
      && !(ds.contains .number && ds.contains .arabicNumber)
  else true

/-! ## Labels -/

/-- Hyphens neither at an end nor at the third and fourth place together. -/
def hyphensFit (label : List Char) : Bool :=
  label.head? != some '-' && label.getLast? != some '-'
    && !(label.drop 2).take 2 == ['-', '-']

/-- A valid label. -/
def isLabel (label : List Char) : Bool :=
  !label.isEmpty && composed label == label && hyphensFit label
    && !startsIn isMark label && allFit label [] label && directionsAgree label

/-- A text of ASCII characters. -/
def isAscii (cs : List Char) : Bool := cs.all (·.toNat < 128)

/-- Lowercase of ASCII letters. -/
def asciiLower (cs : List Char) : List Char := cs.map Char.toLower

/-- The beginning of the ASCII form of a label. -/
def aceMark : List Char := "xn--".toList

/-- The label that an ASCII form writes. -/
def unicodeLabel? (cs : List Char) : Option (List Char) :=
  let cs := asciiLower cs
  if cs.take 4 = aceMark then
    let rest := cs.drop 4
    if rest.isEmpty ∨ rest.getLast? = some '-' then none
    else (Punycode.decode? rest).filter isLabel
  else if isLabel cs then some cs else none

/-- The longest ASCII form of a label. -/
def maxLabelLength : Nat := 63

/-- The ASCII form of a label. -/
def asciiLabel? (cs : List Char) : Option (List Char) :=
  let ascii :=
    if isAscii cs then (unicodeLabel? cs).map fun _ => cs
    else if isLabel cs then some (aceMark ++ Punycode.encode cs)
    else none
  ascii.filter (·.length ≤ maxLabelLength)

end Accounts.Email
