/-!
# Base 64 for addresses and names

Bytes as letters, digits, hyphens and underscores, six bits each, without padding.  Reading takes
the padding or leaves it, and refuses characters outside the alphabet and bits that no byte uses.
-/

namespace Accounts.Text.Base64Url

/-- The character of six bits. -/
def encodeSix (n : Nat) : Char :=
  let n := n % 64
  if n < 26 then Char.ofNat (65 + n)
  else if n < 52 then Char.ofNat (71 + n)
  else if n < 62 then Char.ofNat (n - 4)
  else if n = 62 then '-'
  else '_'

/-- The six bits of a character. -/
def decodeSix? (c : Char) : Option Nat :=
  let n := c.toNat
  if 65 ≤ n ∧ n ≤ 90 then some (n - 65)
  else if 97 ≤ n ∧ n ≤ 122 then some (n - 71)
  else if 48 ≤ n ∧ n ≤ 57 then some (n + 4)
  else if c = '-' then some 62
  else if c = '_' then some 63
  else none

/-- The text of bytes, three at a time. -/
def encode : List UInt8 → List Char
  | [] => []
  | [a] => [encodeSix (a.toNat / 4), encodeSix (a.toNat % 4 * 16)]
  | [a, b] =>
    [encodeSix (a.toNat / 4), encodeSix (a.toNat % 4 * 16 + b.toNat / 16),
      encodeSix (b.toNat % 16 * 4)]
  | a :: b :: c :: rest =>
    encodeSix (a.toNat / 4) :: encodeSix (a.toNat % 4 * 16 + b.toNat / 16)
      :: encodeSix (b.toNat % 16 * 4 + c.toNat / 64) :: encodeSix (c.toNat % 64) :: encode rest

/-- The bytes of groups of six bits. -/
def joinSixes : List Nat → Option (List UInt8)
  | [] => some []
  | [_] => none
  | [a, b] => if b % 16 = 0 then some [UInt8.ofNat (a * 4 + b / 16)] else none
  | [a, b, c] =>
    if c % 4 = 0 then
      some [UInt8.ofNat (a * 4 + b / 16), UInt8.ofNat (b % 16 * 16 + c / 4)]
    else none
  | a :: b :: c :: d :: rest =>
    (joinSixes rest).map fun bytes =>
      UInt8.ofNat (a * 4 + b / 16) :: UInt8.ofNat (b % 16 * 16 + c / 4)
        :: UInt8.ofNat (c % 4 * 64 + d) :: bytes

/-- The text without its padding; the padding must fill up a group of four. -/
def unpad? (cs : List Char) : Option (List Char) :=
  let body := cs.takeWhile (· ≠ '=')
  let padding := cs.dropWhile (· ≠ '=')
  if padding.isEmpty then some body
  else if padding.all (· == '=') ∧ padding.length ≤ 2 ∧ cs.length % 4 = 0 then some body
  else none

/-- The bytes that a text writes. -/
def decode? (cs : List Char) : Option (List UInt8) := do
  joinSixes (← (← unpad? cs).mapM decodeSix?)

end Accounts.Text.Base64Url
