import Accounts.Password.Pi

/-!
# The cipher behind password hashes

A block cipher on pairs of 32-bit words, with 18 subkeys and four boxes of 256 words.  A key is
stirred into them by encrypting a running block over and over and storing it in place of the
words one pair after the other.  Doing so many times makes the setup as slow as one wants.
-/

namespace Accounts.Password

/-! ## Encryption -/

/-- The subkeys and the boxes. -/
structure Cipher where
  subkeys : Array UInt32
  boxes : Array UInt32

/-- The number of subkeys. -/
def subkeyCount : Nat := 18

/-- The cipher before any key: places of pi. -/
def Cipher.start : Cipher :=
  let words := piWords (subkeyCount + 1024)
  ⟨(words.take subkeyCount).toArray, (words.drop subkeyCount).toArray⟩

/-- A word spread through the boxes. -/
def Cipher.spread (c : Cipher) (x : UInt32) : UInt32 :=
  let a := c.boxes.getD (x >>> 24).toNat 0
  let b := c.boxes.getD (256 + ((x >>> 16) &&& 255).toNat) 0
  let d := c.boxes.getD (512 + ((x >>> 8) &&& 255).toNat) 0
  let e := c.boxes.getD (768 + (x &&& 255).toNat) 0
  ((a + b) ^^^ d) + e

/-- Two words. -/
structure Block where
  left : UInt32
  right : UInt32

/-- Pairs of rounds from a subkey on. -/
def Cipher.rounds (c : Cipher) : Nat → Nat → UInt32 → UInt32 → Block
  | 0, i, l, r => ⟨r ^^^ c.subkeys.getD (i + 1) 0, l ^^^ c.subkeys.getD i 0⟩
  | count + 1, i, l, r =>
    let l := l ^^^ c.subkeys.getD i 0
    let r := r ^^^ c.spread l ^^^ c.subkeys.getD (i + 1) 0
    c.rounds count (i + 2) (l ^^^ c.spread r) r

/-- Encrypt a block. -/
def Cipher.encrypt (c : Cipher) (b : Block) : Block := c.rounds 8 0 b.left b.right

/-! ## Keys -/

/-- A salt of four words. -/
structure Salt where
  a : UInt32
  b : UInt32
  c : UInt32
  d : UInt32

/-- The salt that changes nothing. -/
def Salt.zero : Salt := ⟨0, 0, 0, 0⟩

/-- Add the first half of the salt to the blocks at even places and the second to the others. -/
def Salt.addTo (s : Salt) (i : Nat) (b : Block) : Block :=
  if i % 2 = 0 then ⟨b.left ^^^ s.a, b.right ^^^ s.b⟩ else ⟨b.left ^^^ s.c, b.right ^^^ s.d⟩

/-- Store a block at a place among the pairs of subkeys and then those of the boxes. -/
def Cipher.store (i : Nat) (b : Block) : Cipher → Cipher
  | ⟨subkeys, boxes⟩ =>
    if i < 9 then
      ⟨(subkeys.setIfInBounds (2 * i) b.left).setIfInBounds (2 * i + 1) b.right, boxes⟩
    else
      ⟨subkeys, (boxes.setIfInBounds (2 * (i - 9)) b.left).setIfInBounds (2 * (i - 9) + 1) b.right⟩

/-- Replace so many pairs of words from a place on. -/
def Cipher.refill (salt : Salt) : Nat → Nat → Block → Cipher → Cipher
  | 0, _, _, c => c
  | count + 1, i, b, c =>
    let b := c.encrypt (salt.addTo i b)
    refill salt count (i + 1) b (c.store i b)

/-- Add words of a key to the subkeys. -/
def Cipher.addKey (key : List UInt32) : Cipher → Cipher
  | ⟨subkeys, boxes⟩ => ⟨subkeys.mapIdx fun i x => x ^^^ key.getD i 0, boxes⟩

/-- Stir a key into a cipher. -/
def Cipher.stir (salt : Salt) (key : List UInt32) (c : Cipher) : Cipher :=
  (c.addKey key).refill salt 521 0 ⟨0, 0⟩

/-- Stir two keys into a cipher in turn, so many times. -/
def Cipher.stirTimes (key₁ key₂ : List UInt32) : Nat → Cipher → Cipher
  | 0, c => c
  | count + 1, c => stirTimes key₁ key₂ count ((c.stir .zero key₁).stir .zero key₂)

/-- The words of a salt, repeated to the length of a key. -/
def Salt.key (s : Salt) : List UInt32 :=
  (List.replicate 5 [s.a, s.b, s.c, s.d]).flatten.take subkeyCount

/-- The cipher of a key and a salt at a cost; the work doubles with every unit of the cost. -/
def Cipher.setup (cost : Nat) (salt : Salt) (key : List UInt32) : Cipher :=
  (Cipher.start.stir salt key).stirTimes key salt.key (Nat.pow 2 cost)

/-- Encrypt a block so many times. -/
def Cipher.encryptTimes (c : Cipher) : Nat → Block → Block
  | 0, b => b
  | count + 1, b => c.encryptTimes count (c.encrypt b)

end Accounts.Password
