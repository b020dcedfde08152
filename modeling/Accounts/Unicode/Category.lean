import Accounts.Text.Ranges

/-!
# General categories of characters

The classes of characters that other rules are stated in: what shows as a sign of its own
(letters, numbers, punctuation and symbols), the combining marks, and the decimal digits of all
scripts.
-/

namespace Accounts.Unicode

open Text

/-- Letters, numbers, punctuation and symbols. -/
def graphic : Ranges := Ranges.ofPacked
  "21 5e 22 c 1 252 70 8 2 6 4 7 1 1 1 14 1 e0 7 a6 1 26 2 32 2 3 2e 1 1 1 2 1 2 1 9 1b 4 6 11 a b
  1 1 2e 15 10 1 65 8 1 6 2 2 1 4 20 2 1 1 1e 1d 59 b 1 e 2b 9 7 3 18 4 1 9 1 3 1 7 f 1 19 5 1 1
  b 5 1f 11 2a 3a 36 3 1 12 1 7 a 2 1d 4 8 2 2 2 16 1 7 1 1 3 4 3 1 10 1 d 2 1 3 4 18 7 6 4 2 2
  16 1 7 1 2 1 2 1 2 1f 4 1 1 7 a 2 3 1 1 e 9 1 3 1 16 1 7 1 2 1 5 3 1 12 1 f 2 4 c 7 1 b 8 2 2 2
  16 1 7 1 2 1 5 3 1 1e 2 1 3 4 12 b 1 1 6 3 3 1 4 3 2 1 1 1 2 3 2 3 3 3 c 16 1 15 15 a 8 1 3 1
  17 1 10 3 1 1a 3 2 1 2 2 4 a 7 a 3 9 1 3 1 17 1 a 1 5 3 1 1f 2 1 2 4 a 1 2 11 9 1 3 1 29 2 1 10
  2 4 3 1 a 4 1a 5 12 3 18 1 9 1 1 2 7 1f a 4 1 c 30 1 2 b 8 8 d 25 2 1 1 1 5 1 18 1 1 1 a 1 2 9
  1 2 5 1 1 9 a 2 4 20 18 2 1b 1 1 1 1 1 4 2 8 1 24 18 1 2 5 31 8 1 6 1 d 25 2b 14 17 4 4 3 1 3 2
  7 3 4 d c 1 1 a 4 28 1 1 5 1 2 179 1 4 2 7 1 1 1 4 2 29 1 4 2 21 1 4 2 7 1 1 1 4 2 f 1 39 1 4 2
  43 5 1d 3 1a 6 56 2 6 2 280 1 1c 3 59 7 12 d 13 3 2 9 12 e d 1 3 f 34 20 9 3 a 6 a 6 b 5 a 6 59
  7 5 2 22 1 1 5 46 a 1f 21 1 3 2a 2 5 b 2c 4 1a 6 b 3 39 7 37 2b a 6 a 6 e 57 2f 11 8 3 1b 9 b 4
  1e d 38 16 28 17 f 3 3c 7 2b 2 b b 1 15 4 1 6 1 2 3 1 5 c0 40 116 2 6 2 26 2 6 2 8 1 1 1 1 1 1
  1 1f 2 35 1 f 1 e 2 6 1 13 2 3 1 9 11 18 8 2f 11 2 2 1b 1 d 3 21 3f 8c 4 297 19 b 15 714 2 20 1
  158 3 2 5 2d 1 1 5 1 2 38 7 2 f 17 9 7 1 7 1 7 1 7 1 7 1 7 1 7 1 7 21 5e 22 1a 1 59 c d6 1a c 5
  29 6 10 1 56 4 65 5 2b 1 5e 1 54 c 2f 1 726d 3 37 9 15c 14 2f 4 1 a 20 2 50 2 6 8 cb 5 2 1 1 1
  5 18 10 1 3 1 4 1 17 5 4 4 a 6 38 a 32 1a c 18 d 1 26 8 19 18 1e 7 2f e d 1 b 4 7 1 19 1 29 17
  3 1 8 4 a 2 1f 3 32 1 1 3 2 2 5 2 1 1 1 18 10 5 5 c 6 2 6 2 6 9 7 1 7 1 3c 4 73 8 1 4 a 6 2ba4
  c 17 4 31 2104 16e 2 6a 26 7 c 5 5 1 1 18 1 5 1 1 1 2 1 2 1 7d 10 1bd 2 36 7 1 20 10 10 a 16 23
  1 13 1 4 4 5 1 87 4 be 3 6 2 6 2 6 2 3 3 7 1 7 d 2 2 c 1 1a 1 13 1 2 1 f 2 e 22 7b 5 3 4 2d 3
  58 1 d 3 1 2f 2d 83 1d 3 31 10 1b 4 24 9 1e 5 26 a 1e 1 25 4 e 2a 9e 2 a 6 24 4 24 4 28 8 34 b
  c 1 f 1 7 1 2 1 b 1 f 1 7 1 2 43 137 9 16 a 8 18 6 1 2a 1 9 45 6 2 1 1 2c 1 2 3 1 2 17 1 48 8 9
  30 13 1 2 5 21 3 1b 5 1 40 38 4 14 2 2f f 4 1 3 1 1d a 9 7 9 7 40 20 25 6 c 9 36 3 1d 2 1b 5 1a
  7 4 c 7 50 49 37 33 d 33 7 2a c a 126 1f 1 2a 3 1 2 2 4e 28 8 16 b 9 16 12 4 4 26 1c 14 17 c 35
  f 7 4 1e 1 2 2 1 d 2d b 2 1 4 e 19 7 a 9 24 f f 2 1 8 23 1 3 c 30 e 8 4 1 2 10 1 14 b 12 1 19 c
  6 42 7 1 1 1 4 1 f 1 b 6 2f 11 a b 8 2 2 2 16 1 7 1 2 1 5 3 1 12 1 c 5 9e 35 12 15 1 1 1 3 1e
  30 14 4 8 a a6 2f 12 1b 24 30 11 4 b a 6 d 13 2b d 2 6 a 36 1b 15 17 b9 2c f 1 64 53 c 8 2 1 2
  8 1 2 1 18 f 1 1 1 2 3 9 a 46 8 2 27 10 3 1c 1 a 28 7 1 4 8 9 1 b 2e 10 9 d 49 107 9 1 25 11 6
  a 1d 3 20 70 7 1 2 1 26 15 1 9 a 6 6 1 2 1 20 e 1 7 a 136 13 4 2 b7 1 f 32 d 39b 66 6f 1 5 b c4
  a4c 63 d 42f fd1 247 21b9 239 7 1f 1 a 4 51 1 a 6 1e 7 1 a 30 7 f a a 1 7 1 15 5 13 2b0 5b 65
  4b 5 1 42 d 40 4 1c 17f8 8 4d6 2a 9 22e7 4 1 7 1 2 1 123 2d 3 11 4 8 18c 904 6b 5 d 3 9 7 a 2 1
  2 1 12b0 74 3c f6 a 27 2 3c 5 3 16 2 7 1e 4 3d 15 42 3 1 9a 14 c 57 9 19 87 55 1 47 1 2 2 1 2 2
  2 4 1 c 1 1 1 7 1 41 1 4 2 8 1 7 1 1c 1 4 1 5 1 1 3 7 1 154 2 124 2 232 37 4 32 8 1 e 1 7 474
  1f 1e1 2d a 7 2 a 4 2 140 1e 12 2c 4 a 5 1 4e0 7 1 4 1 2 1 f 1 c5 2 9 30 44 7 1 4 a 4 2 311 44
  4c 3d c2 4 1 1b 1 2 1 1 2 1 1 a 1 4 1 1 1 1 6 1 4 1 1 1 1 1 1 3 1 2 1 1 2 1 1 1 1 1 1 1 1 1 1 2
  1 1 2 4 1 7 1 4 1 4 1 1 1 a 1 11 5 3 1 5 1 11 34 2 10e 2c 4 64 c f 2 f 1 f 1 25 a ae 38 1d d 2c
  4 9 7 2 e 6 9a 3d8 5 10 3 d 3 74 c 59 7 c 4 1 f c 4 38 8 a 6 28 8 1e 2 2 4e 154 c e 2 5 3 5 3 7
  9 1d 3 b 5 6 a a 6 8 8 7 9 93 1 37 25 a 406 a6e0 20 1039 7 de 2 1682 e 1d31 c1f 21e 5e2 134b"

/-- Combining marks. -/
def marks : Ranges := Ranges.ofPacked
  "300 70 113 7 107 2d 1 1 1 2 1 2 1 1 48 b 30 15 10 1 65 7 2 6 2 2 1 4 23 1 1e 1b 5b b 3a 9 9 1
  18 4 1 9 1 3 1 5 2b 3 3c 8 2a 18 1 21 36 3 1 12 1 7 a 2 1d 3 38 1 1 7 2 2 2 3 9 1 a 2 1a 1 2 3
  38 1 1 5 4 2 2 3 3 1 1e 2 3 1 b 3 38 1 1 8 1 3 1 3 14 2 16 6 1 3 38 1 1 7 2 2 2 3 7 3 a 2 1e 1
  3b 5 3 3 1 4 9 1 28 5 37 1 1 7 1 3 1 4 7 2 b 2 1d 3 38 1 1 7 1 3 1 4 7 2 b 2 1c 4 37 2 1 7 1 3
  1 4 9 1 a 2 1d 3 46 1 4 6 1 1 1 8 12 2 3d 1 2 7 c 8 62 1 2 9 b 6 4a 2 1b 1 1 1 1 1 4 2 31 14 1
  2 5 b 1 24 9 1 64 14 17 4 4 3 1 3 2 7 3 4 d c 1 1 a 4 2bf 3 3b2 4 1c 3 1d 2 1e 2 40 20 9 1 2d 3
  1 1 75 2 22 1 76 c 4 c db 5 39 a 1 1d 2 1 30 1f 31 5 2f 11 26 9 c 3 1e d 38 e 30 14 98 3 1 15 4
  1 6 1 2 3 c6 40 2d0 21 bfe 3 8d 1 60 20 22a 6 69 2 75d4 4 1 a 20 2 50 2 110 1 3 1 4 1 17 5 4 1
  53 2 32 12 1a 12 d 1 26 8 19 d 2c 4 2f e 24 1 43 e c 1 8 2 2d 3 32 1 1 3 2 2 5 2 1 1 29 5 5 2
  ec 8 1 2 4f30 1 2e1 10 10 10 3cd 1 e2 1 95 5 686 3 1 2 5 4 28 3 4 1 a5 2 23d 4 183 2 99 b 31 4
  7a 3 35 f 29 1 2 2 a 4 2d b 7 1 3d 3 24 e 10 2 2c 1 c 3 30 e 8 4 1 2 5c c 6 1 a0 c 15 4 37 2 1
  7 2 2 2 3 9 1 a 2 2 7 3 5 c0 12 17 1 51 14 eb 7 2 9 1b 2 52 11 6a d 65 f 100 f f5 6 1 2 2 4 1 1
  1 2 8d 7 2 7 3 1 1c a 28 7 1 4 8 1 9 b 2e 10 195 8 1 8 52 16 1 e 7a 6 3 1 1 2 1 7 1 1 42 5 1 2
  1 5 15b 4 4bf9 5 3b 7 418 1 1 37 7 4 51 1 b 2 4cab 2 1261 2e 2 17 21e 5 3 6 8 8 2 7 1e 4 94 3
  7bb 37 4 32 8 1 e 1 16 5 1 f 550 7 1 11 2 7 1 2 1 5 105 7 177 1 3d 4 5e0 7 6d 7 c17b5 f0"

/-- A letter, number, punctuation or symbol.  Those of ASCII are told without the table. -/
def isGraphic (c : Char) : Bool := (0x21 ≤ c.toNat && c.toNat ≤ 0x7E) || graphic.has c

/-- A combining mark.  ASCII has none. -/
def isMark (c : Char) : Bool := 128 ≤ c.toNat && marks.has c

/-- The zeros of the decimal digits; the other nine follow each. -/
def zeros : List Nat := packedNumbers
  "30 660 6f0 7c0 966 9e6 a66 ae6 b66 be6 c66 ce6 d66 de6 e50 ed0 f20 1040 1090 17e0 1810 1946
  19d0 1a80 1a90 1b50 1bb0 1c40 1c50 a620 a8d0 a900 a9d0 a9f0 aa50 abf0 ff10 104a0 10d30 11066
  110f0 11136 111d0 112f0 11450 114d0 11650 116c0 11730 118e0 11950 11c50 11d50 11da0 16a60 16ac0
  16b50 1d7ce 1d7d8 1d7e2 1d7ec 1d7f6 1e140 1e2f0 1e950 1fbf0"

/-- The value of a decimal digit of any script. -/
def digit? (c : Char) : Option Nat :=
  (zeros.find? fun z => z ≤ c.toNat && c.toNat < z + 10).map fun z => c.toNat - z

end Accounts.Unicode
