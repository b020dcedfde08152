/-!
# UTF-8

Characters as bytes and back.  Strict reading fails when a byte is missing, a sequence is longer
than it needs to be, or a surrogate is written.  Lossy reading never fails: the longest beginning
of a character that is not finished, and every other byte that writes none, becomes one
replacement character.
-/

namespace Accounts.Text

/-! ## Writing -/

/-- The bytes of a text. -/
def utf8 (cs : List Char) : List UInt8 := cs.flatMap String.utf8EncodeChar

/-- The bytes of a string. -/
def bytesOf (s : String) : List UInt8 := utf8 s.toList

/-- The number of bytes of a text. -/
def byteLength (cs : List Char) : Nat := (utf8 cs).length

/-! ## Strict reading -/

/-- The low six bits of a continuation byte. -/
def continuation? (b : UInt8) : Option Nat :=
  if 0x80 ≤ b.toNat ∧ b.toNat < 0xC0 then some (b.toNat - 0x80) else none

/-- A character whose code is not below a bound. -/
def charFrom? (bound n : Nat) : Option Char :=
  if h : n.isValidChar then if bound ≤ n then some (Char.ofNatAux n h) else none else none

/-- Put a character in front of a text. -/
def prepend (c : Option Char) (cs : Option (List Char)) : Option (List Char) :=
  match c, cs with
  | some c, some cs => some (c :: cs)
  | _, _ => none

/-- A character of two bytes. -/
def twoBytes? (a b : UInt8) : Option Char := do
  charFrom? 0x80 ((a.toNat - 0xC0) * 64 + (← continuation? b))

/-- A character of three bytes. -/
def threeBytes? (a b c : UInt8) : Option Char := do
  charFrom? 0x800 (((a.toNat - 0xE0) * 64 + (← continuation? b)) * 64 + (← continuation? c))

/-- A character of four bytes. -/
def fourBytes? (a b c d : UInt8) : Option Char := do
  charFrom? 0x10000 ((((a.toNat - 0xF0) * 64 + (← continuation? b)) * 64 + (← continuation? c)) * 64
    + (← continuation? d))

/-- The text that bytes write. -/
def ofUtf8? : List UInt8 → Option (List Char)
  | [] => some []
  | a :: rest =>
    if a.toNat < 0x80 then prepend (some (Char.ofNat a.toNat)) (ofUtf8? rest)
    else if a.toNat < 0xC0 then none
    else
      match rest with
      | b :: rest =>
        if a.toNat < 0xE0 then prepend (twoBytes? a b) (ofUtf8? rest)
        else
          match rest with
          | c :: rest =>
            if a.toNat < 0xF0 then prepend (threeBytes? a b c) (ofUtf8? rest)
            else
              match rest with
              | d :: rest =>
                if a.toNat < 0xF8 then prepend (fourBytes? a b c d) (ofUtf8? rest) else none
              | [] => none
          | [] => none
      | [] => none

/-! ## Lossy reading -/

/-- The range of the second byte of a character of several bytes after its first byte, and how
many bytes come after it. -/
def secondByte? (a : UInt8) : Option (Nat × Nat × Nat) :=
  let n := a.toNat
  if n < 0xC2 then none
  else if n < 0xE0 then some (0x80, 0xBF, 0)
  else if n < 0xF0 then
    some (if n = 0xE0 then 0xA0 else 0x80, if n = 0xED then 0x9F else 0xBF, 1)
  else if n < 0xF5 then
    some (if n = 0xF0 then 0x90 else 0x80, if n = 0xF4 then 0x8F else 0xBF, 2)
  else none

/-- How many bytes after a first byte belong to the same character, finished or not. -/
def tailLength (a : UInt8) (rest : List UInt8) : Nat :=
  match secondByte? a, rest with
  | some (low, high, more), b :: rest =>
    if low ≤ b.toNat ∧ b.toNat ≤ high then
      1 + ((rest.take more).takeWhile fun b => (continuation? b).isSome).length
    else 0
  | _, _ => 0

/-- The text of bytes, with a replacement character where they write none. -/
def lossyText : List UInt8 → List Char
  | [] => []
  | a :: rest =>
    let tail := tailLength a rest
    (ofUtf8? (a :: rest.take tail)).getD ['\ufffd'] ++ lossyText (rest.drop tail)
termination_by bytes => bytes.length
decreasing_by simp only [List.length_cons, List.length_drop]; omega

end Accounts.Text
