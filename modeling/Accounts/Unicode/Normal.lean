import Accounts.Unicode.Composition

/-!
# Canonical composition

The composed normal form of a text: take every character apart, put marks in the order of their
combining classes, and put together what can be put together.

    compose ∘ reorder ∘ decompose

Hangul syllables are taken apart and put together by arithmetic, all else by the tables.
-/

namespace Accounts.Unicode

open Text

/-! ## Hangul -/

/-- The first syllable. -/
def syllableBase : Nat := 0xAC00

/-- The parts of a syllable of two or three. -/
def syllableParts? (n : Nat) : Option (List Nat) :=
  if syllableBase ≤ n ∧ n < syllableBase + 11172 then
    let s := n - syllableBase
    let trailing := if s % 28 = 0 then [] else [0x11A7 + s % 28]
    some ((0x1100 + s / 588) :: (0x1161 + s % 588 / 28) :: trailing)
  else none

/-- The syllable of two parts, the first of which may be a syllable of two parts. -/
def joinSyllable? (a b : Nat) : Option Nat :=
  if 0x1100 ≤ a ∧ a < 0x1113 ∧ 0x1161 ≤ b ∧ b < 0x1176 then
    some (syllableBase + ((a - 0x1100) * 21 + (b - 0x1161)) * 28)
  else if syllableBase ≤ a ∧ a < syllableBase + 11172 ∧ (a - syllableBase) % 28 = 0
      ∧ 0x11A7 < b ∧ b < 0x11C3 then
    some (a + (b - 0x11A7))
  else none

/-! ## Decomposition -/

/-- Take a code point apart.  The fuel bounds the depth of nested decompositions, which is at
most four in the tables. -/
def decomposeCode : Nat → Nat → List Nat
  | 0, n => [n]
  | fuel + 1, n =>
    match syllableParts? n with
    | some parts => parts
    | none =>
      match (composites.find? (·.whole = n)).or (splits.find? (·.whole = n)) with
      | some c => decomposeCode fuel c.first ++ decomposeCode fuel c.second
      | none =>
        match singletons.find? (·.has n) with
        | some r => decomposeCode fuel (r.value + (n - r.first))
        | none => [n]

/-- Take a text apart. -/
def decompose (ns : List Nat) : List Nat := ns.flatMap (decomposeCode 8)

/-- Put a code point before a text, behind the marks that precede it by class. -/
def placeMark (n : Nat) : List Nat → List Nat
  | [] => [n]
  | m :: ms =>
    if combiningClass m ≠ 0 ∧ combiningClass m < combiningClass n then m :: placeMark n ms
    else n :: m :: ms

/-- Put marks in the order of their classes, and leave marks of one class as they stand. -/
def reorder (ns : List Nat) : List Nat := ns.foldr placeMark []

/-! ## Composition -/

/-- The composite of two code points. -/
def join? (a b : Nat) : Option Nat :=
  (joinSyllable? a b).or
    ((composites.find? fun c => c.first = a && c.second = b).map (·.whole))

/-- Compose onto a base.  `marks` are those behind the base that did not compose, last one first;
the class of the last one blocks marks of no higher class. -/
def composeOnto (base : Nat) (marks : List Nat) : List Nat → List Nat
  | [] => base :: marks.reverse
  | n :: ns =>
    let blocked := match marks with
      | [] => false
      | m :: _ => combiningClass n ≤ combiningClass m
    match if blocked then none else join? base n with
    | some whole => composeOnto whole marks ns
    | none =>
      if combiningClass n = 0 then base :: (marks.reverse ++ composeOnto n [] ns)
      else composeOnto base (n :: marks) ns

/-- Compose a text; marks in front of the first base stay. -/
def compose : List Nat → List Nat
  | [] => []
  | n :: ns => if combiningClass n = 0 then composeOnto n [] ns else n :: compose ns

/-- The composed normal form.  A text of ASCII characters is in it. -/
def composed (cs : List Char) : List Char :=
  if cs.all (·.toNat < 128) then cs
  else (compose (reorder (decompose (cs.map Char.toNat)))).map Char.ofNat

end Accounts.Unicode
