import Accounts.Number.Decimal

/-!
# Punycode

Labels of international domain names written with ASCII characters.  The ASCII characters of a
label come first, then a hyphen, then the positions and code points of the others as a sequence
of numbers in base 36 with digits of changing weight.

    encode "bücher" = "bcher-kva"
-/

namespace Accounts.Email.Punycode

open Number

/-! ## Weights -/

/-- Scale a delta down until it is small, and count the steps. -/
def scaleDown (delta : Nat) : Nat × Nat :=
  if 455 < delta then
    let (d, k) := scaleDown (delta / 35)
    (d, k + 36)
  else (delta, 0)
termination_by delta

/-- The bias after a number, from the number and the points written so far. -/
def adapt (delta points : Nat) (first : Bool) : Nat :=
  let delta := if first then delta / 700 else delta / 2
  let (d, k) := scaleDown (delta + delta / points)
  k + 36 * d / (d + 38)

/-- The threshold of a digit: digits below it end a number. -/
def threshold (bias k : Nat) : Nat := max 1 (min 26 (k - bias))

/-- The character of a digit below 36. -/
def digitChar (d : Nat) : Char :=
  if d < 26 then Char.ofNat (97 + d) else Char.ofNat (22 + d)

/-- The value of a character as a digit. -/
def digitValue? (c : Char) : Option Nat :=
  let n := c.toNat
  if 97 ≤ n ∧ n ≤ 122 then some (n - 97)
  else if 65 ≤ n ∧ n ≤ 90 then some (n - 65)
  else if 48 ≤ n ∧ n ≤ 57 then some (n - 22)
  else none

/-- The digits of a number from a digit position on. -/
def numberChars (bias k q : Nat) : List Char :=
  let t := threshold bias k
  if h : q < t then [digitChar q]
  else digitChar (t + (q - t) % (36 - t)) :: numberChars bias (k + 36) ((q - t) / (36 - t))
termination_by q
decreasing_by
  have ht : 1 ≤ threshold bias k := Nat.le_max_left ..
  have hq : (q - threshold bias k) / (36 - threshold bias k) ≤ q - threshold bias k :=
    Nat.div_le_self ..
  omega

/-! ## Encoding -/

/-- The state of the encoder: the number to write next, the points written, the bias, whether no
number has been written, and the text, last character first. -/
structure Encoder where
  delta : Nat
  written : Nat
  bias : Nat
  first : Bool
  text : List Char

/-- Pass one code point of the label while points with the code `n` are written. -/
def Encoder.pass (n : Nat) (s : Encoder) (c : Nat) : Encoder :=
  if c < n then { s with delta := s.delta + 1 }
  else if c = n then
    { delta := 0
      written := s.written + 1
      bias := adapt s.delta (s.written + 1) s.first
      first := false
      text := (numberChars s.bias 36 s.delta).reverse ++ s.text }
  else s

/-- Write all points with one code, given the code before it. -/
def Encoder.writeAll (label : List Nat) (s : Encoder) (last n : Nat) : Encoder :=
  label.foldl (Encoder.pass n) { s with delta := s.delta + (n - last) * (s.written + 1) }

/-- Write the points of all codes in a list in increasing order. -/
def Encoder.writeCodes (label : List Nat) : Encoder → Nat → List Nat → Encoder
  | s, _, [] => s
  | s, last, n :: ns =>
    let s := s.writeAll label last n
    writeCodes label { s with delta := s.delta + 1 } (n + 1) ns

/-- The codes of a list in increasing order, each once. -/
def distinctSorted (ns : List Nat) : List Nat :=
  (ns.eraseDups).mergeSort (· ≤ ·)

/-- The text of a label. -/
def encode (cs : List Char) : List Char :=
  let label := cs.map Char.toNat
  let basic := cs.filter (·.toNat < 128)
  let others := distinctSorted (label.filter (128 ≤ ·))
  let start : Encoder := ⟨0, basic.length, 72, true, []⟩
  let extended := (start.writeCodes label 128 others).text.reverse
  if basic.isEmpty then extended else basic ++ '-' :: extended

/-! ## Decoding -/

/-- The state of the decoder: the label so far, the code and position of the last point, the
bias, whether no number has been read, and the number being read with the weight and position of
its next digit. -/
structure Decoder where
  label : List Nat
  code : Nat
  next : Nat
  bias : Nat
  first : Bool
  number : Nat
  weight : Nat
  k : Nat

/-- Insert the point that a finished number stands for. -/
def Decoder.insert (s : Decoder) (delta : Nat) : Decoder :=
  let size := s.label.length + 1
  let position := s.next + delta
  { label := s.label.take (position % size)
      ++ (s.code + position / size) :: s.label.drop (position % size)
    code := s.code + position / size
    next := position % size + 1
    bias := adapt delta size s.first
    first := false
    number := 0
    weight := 1
    k := 36 }

/-- Read one digit. -/
def Decoder.step (s : Decoder) (digit : Nat) : Decoder :=
  let t := threshold s.bias s.k
  let number := s.number + digit * s.weight
  if digit < t then s.insert number
  else { s with number := number, weight := s.weight * (36 - t), k := s.k + 36 }

/-- Read all digits; the text must not end inside a number. -/
def Decoder.run : Decoder → List Char → Option (List Nat)
  | s, [] => if s.k = 36 then some s.label else none
  | s, c :: cs =>
    match digitValue? c with
    | some d =>
      let s := s.step d
      if 0x10FFFF < s.code then none else s.run cs
    | none => none

/-- The characters before the last hyphen and those after it. -/
def splitLastHyphen (cs : List Char) : List Char × List Char :=
  let tail := (cs.reverse.takeWhile (· ≠ '-')).reverse
  if tail.length = cs.length then ([], cs)
  else (cs.take (cs.length - tail.length - 1), tail)

/-- The label that a text writes. -/
def decode? (cs : List Char) : Option (List Char) :=
  let (basic, digits) := splitLastHyphen cs
  match (Decoder.mk (basic.map Char.toNat) 128 0 72 true 0 1 36).run digits with
  | some codes =>
    if codes.all (fun n => decide n.isValidChar) then some (codes.map Char.ofNat) else none
  | none => none

end Accounts.Email.Punycode
