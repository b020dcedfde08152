import Accounts.Json.Basic
import Accounts.Text.Ranges

/-!
# Reading JSON

A recursive descent reader.  It takes `NaN` and the two infinities as numbers, keeps the last of
several members of one name, and reports a fault as the number of characters that are left from
the place of the fault, so that no position is carried along:

    offset of the fault = length of the text - characters left

Integers of more than 4300 digits are refused, and so are arrays and objects that are nested deeper
than the limits of the reader allow.
-/

namespace Accounts.Json

open Number Text

/-- Why a text cannot be read. -/
inductive ReadFault where
  /-- The text breaks the grammar with so many characters left. -/
  | malformed (left : Nat)
  /-- An integer has too many digits. -/
  | tooManyDigits
  /-- Arrays and objects are nested too deep. -/
  | tooDeep
  /-- A string has an unpaired surrogate, where none is taken. -/
  | brokenString
  deriving DecidableEq, Repr

/-- What a reader takes. -/
structure Limits where
  /-- How many arrays and objects there may be around a value. -/
  depth : Nat
  /-- A string may have unpaired surrogates. -/
  loose : Bool := true
  deriving DecidableEq, Repr

/-- The limits of a reader with room for so many arrays and objects inside the outermost one. -/
def Limits.within (room : Nat) : Limits := { depth := room + 1 }

/-- The limits that stop nothing in a text: it is not nested deeper than it is long. -/
def Limits.wide (cs : List Char) : Limits := { depth := cs.length + 1 }

/-- A value and the text after it, or a fault. -/
abbrev Read (α : Type) := Except ReadFault (α × List Char)

/-! ## Strings -/

/-- The number written by four hexadecimal digits. -/
def hex4? (a b c d : Char) : Option Nat := do
  return 4096 * (← hexDigit? a) + 256 * (← hexDigit? b) + 16 * (← hexDigit? c) + (← hexDigit? d)

/-- The first half of a surrogate pair. -/
def isHighSurrogate (n : Nat) : Bool := 0xD800 ≤ n && n ≤ 0xDBFF

/-- The second half of a surrogate pair. -/
def isLowSurrogate (n : Nat) : Bool := 0xDC00 ≤ n && n ≤ 0xDFFF

/-- The code point of a surrogate pair. -/
def joinSurrogates (high low : Nat) : Nat :=
  0x10000 + (high - 0xD800) * 1024 + (low - 0xDC00)

/-- The character named by a one-letter escape. -/
def shortEscape? (c : Char) : Option Char :=
  if c = '"' ∨ c = '\\' ∨ c = '/' then some c
  else if c = 'b' then some '\x08'
  else if c = 'f' then some '\x0c'
  else if c = 'n' then some '\n'
  else if c = 'r' then some '\r'
  else if c = 't' then some '\t'
  else none

/-- Put a unit in front of those read after it. -/
def prependUnit (n : Nat) : Read (List Nat) → Read (List Nat)
  | .ok (units, rest) => .ok (n :: units, rest)
  | .error e => .error e

/-- The units of a string up to its closing quote, one for each character or escape.  `fromQuote`
is what was left at the opening quote.  An escape of four digits is complete only when something
follows it. -/
def readUnits (fromQuote : Nat) : List Char → Read (List Nat)
  | [] => .error (.malformed fromQuote)
  | '"' :: rest => .ok ([], rest)
  | '\\' :: 'u' :: a :: b :: c :: d :: rest =>
    match hex4? a b c d, rest.isEmpty with
    | some n, false => prependUnit n (readUnits fromQuote rest)
    | _, _ => .error (.malformed (rest.length + 5))
  | '\\' :: 'u' :: rest => .error (.malformed (rest.length + 1))
  | '\\' :: [] => .error (.malformed fromQuote)
  | '\\' :: c :: rest =>
    match shortEscape? c with
    | some c' => prependUnit c'.toNat (readUnits fromQuote rest)
    | none => .error (.malformed (rest.length + 2))
  | c :: rest =>
    if c.toNat < 0x20 then .error (.malformed (rest.length + 1))
    else prependUnit c.toNat (readUnits fromQuote rest)

/-- Join the surrogate pairs among units. -/
def joinPairs : List Nat → List Nat
  | high :: low :: rest =>
    if isHighSurrogate high && isLowSurrogate low then joinSurrogates high low :: joinPairs rest
    else high :: joinPairs (low :: rest)
  | units => units

/-- No code is an unpaired surrogate. -/
def areWhole (codes : List Nat) : Bool := codes.all fun n => decide n.isValidChar

/-- The code points of a string up to its closing quote; unpaired surrogates are among them only
when they are taken. -/
def readCodes (loose : Bool) (fromQuote : Nat) (cs : List Char) : Read (List Nat) :=
  match readUnits fromQuote cs with
  | .ok (units, rest) =>
    let codes := joinPairs units
    if loose || areWhole codes then .ok (codes, rest) else .error .brokenString
  | .error e => .error e

/-- The character of a code, a replacement character for an unpaired surrogate. -/
def codeChar (n : Nat) : Char :=
  if n.isValidChar then Char.ofNat n else '\ufffd'

/-- The text of a list of codes. -/
def codesText (codes : List Nat) : String := String.ofList (codes.map codeChar)

/-- The string value of a list of codes. -/
def ofCodes (codes : List Nat) : Json :=
  if areWhole codes then str (codesText codes) else brokenStr (codesText codes)

/-! ## Numbers -/

/-- The digits that an integer may have. -/
def maxDigits : Nat := 4300

/-- The digits in front of a text, and what follows. -/
def spanDigits (cs : List Char) : List Char × List Char :=
  (cs.takeWhile isDigit, cs.dropWhile isDigit)

/-- The integer part: zero alone, or digits that do not start with zero. -/
def readWhole? : List Char → Option (List Char × List Char)
  | '0' :: rest => some (['0'], rest)
  | c :: rest => if isDigit c then some (spanDigits (c :: rest)) else none
  | [] => none

/-- The digits after a point, if there is one with a digit behind it. -/
def readPart? : List Char → Option (List Char × List Char)
  | '.' :: c :: rest => if isDigit c then some (spanDigits (c :: rest)) else none
  | _ => none

/-- The exponent, if there is one with at least one digit. -/
def readExponent? : List Char → Option (Int × List Char)
  | c :: rest =>
    if c = 'e' ∨ c = 'E' then
      let (negative, ds) := match rest with
        | '-' :: more => (true, more)
        | '+' :: more => (false, more)
        | _ => (false, rest)
      let (ds, after) := spanDigits ds
      (ofDigits? ds).map fun n => (if negative then -(n : Int) else n, after)
    else none
  | [] => none

/-- A number without its sign. -/
def readUnsigned (left : Nat) (negative : Bool) (cs : List Char) : Read Json :=
  match readWhole? cs with
  | none => .error (.malformed left)
  | some (whole, rest) =>
    let part := readPart? rest
    let rest := (part.map (·.2)).getD rest
    let exponent := readExponent? rest
    let rest := (exponent.map (·.2)).getD rest
    if part.isNone ∧ exponent.isNone then
      if maxDigits < whole.length then .error .tooManyDigits
      else .ok (int (Binary64.signed negative ((ofDigits? whole).getD 0)), rest)
    else
      let places := (part.map (·.1)).getD []
      let scale := (exponent.map (·.1)).getD 0 - places.length
      .ok (float (Binary64.ofDecimal negative ((ofDigits? (whole ++ places)).getD 0) scale), rest)

/-- A number or a negative infinity. -/
def readNumber : List Char → Read Json
  | '-' :: 'I' :: 'n' :: 'f' :: 'i' :: 'n' :: 'i' :: 't' :: 'y' :: rest =>
    .ok (float (.infinite true), rest)
  | '-' :: rest => readUnsigned (rest.length + 1) true rest
  | cs => readUnsigned cs.length false cs

/-! ## Values -/

/-- The white space between tokens. -/
def isSpace (c : Char) : Bool := c = ' ' || c = '\t' || c = '\n' || c = '\r'

/-- The text from the next token on. -/
def skipSpace (cs : List Char) : List Char := cs.dropWhile isSpace

mutual

/-- A value at the front of a text.  The fuel bounds the depth of the calls, and the depth the
arrays and objects that may be around a value inside this one. -/
def readValue (loose : Bool) : Nat → Nat → List Char → Read Json
  | 0, _, cs => .error (.malformed cs.length)
  | fuel + 1, depth, cs =>
    match cs with
    | [] => .error (.malformed 0)
    | '"' :: rest =>
      match readCodes loose (rest.length + 1) rest with
      | .ok (codes, rest) => .ok (ofCodes codes, rest)
      | .error e => .error e
    | '[' :: rest =>
      match depth with
      | 0 => .error .tooDeep
      | depth + 1 =>
        match skipSpace rest with
        | ']' :: rest => .ok (arr [], rest)
        | rest =>
          match readItems loose fuel depth rest with
          | .ok (items, rest) => .ok (arr items, rest)
          | .error e => .error e
    | '\x7b' :: rest =>
      match depth with
      | 0 => .error .tooDeep
      | depth + 1 =>
        match skipSpace rest with
        | '\x7d' :: rest => .ok (obj [], rest)
        | rest =>
          match readMembers loose fuel depth [] rest with
          | .ok (members, rest) => .ok (obj members, rest)
          | .error e => .error e
    | 'n' :: 'u' :: 'l' :: 'l' :: rest => .ok (null, rest)
    | 't' :: 'r' :: 'u' :: 'e' :: rest => .ok (bool true, rest)
    | 'f' :: 'a' :: 'l' :: 's' :: 'e' :: rest => .ok (bool false, rest)
    | 'N' :: 'a' :: 'N' :: rest => .ok (float .nan, rest)
    | 'I' :: 'n' :: 'f' :: 'i' :: 'n' :: 'i' :: 't' :: 'y' :: rest =>
      .ok (float (.infinite false), rest)
    | cs => readNumber cs

/-- The items of an array up to its closing bracket. -/
def readItems (loose : Bool) : Nat → Nat → List Char → Read (List Json)
  | 0, _, cs => .error (.malformed cs.length)
  | fuel + 1, depth, cs =>
    match readValue loose fuel depth cs with
    | .error e => .error e
    | .ok (item, rest) =>
      match skipSpace rest with
      | ']' :: rest => .ok ([item], rest)
      | ',' :: rest =>
        match readItems loose fuel depth (skipSpace rest) with
        | .ok (items, rest) => .ok (item :: items, rest)
        | .error e => .error e
      | rest => .error (.malformed rest.length)

/-- The members of an object up to its closing brace, after those read before. -/
def readMembers (loose : Bool) :
    Nat → Nat → List (String × Json) → List Char → Read (List (String × Json))
  | 0, _, _, cs => .error (.malformed cs.length)
  | fuel + 1, depth, members, cs =>
    match cs with
    | '"' :: rest =>
      match readCodes loose (rest.length + 1) rest with
      | .error e => .error e
      | .ok (codes, rest) =>
        match skipSpace rest with
        | ':' :: rest =>
          match readValue loose fuel depth (skipSpace rest) with
          | .error e => .error e
          | .ok (value, rest) =>
            let members := Assoc.set (codesText codes) value members
            match skipSpace rest with
            | '\x7d' :: rest => .ok (members, rest)
            | ',' :: rest => readMembers loose fuel depth members (skipSpace rest)
            | rest => .error (.malformed rest.length)
        | rest => .error (.malformed rest.length)
    | cs => .error (.malformed cs.length)

end

/-- The value that a whole text writes. -/
def read (limits : Limits) (cs : List Char) : Except ReadFault Json :=
  match readValue limits.loose (2 * cs.length + 2) limits.depth (skipSpace cs) with
  | .error e => .error e
  | .ok (value, rest) =>
    match skipSpace rest with
    | [] => .ok value
    | rest => .error (.malformed rest.length)

/-- The value that a whole text writes, if it writes one. -/
def ofText (s : String) : Option Json := (read (.wide s.toList) s.toList).toOption

end Accounts.Json
