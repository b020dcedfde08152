import Accounts.Digest.Roots

/-!
# The SHA-2 digests

One algorithm on words of 32 or 64 bits.  A message is padded to blocks of 16 words, every block
is stretched to one word for each round, and the rounds mix it into a state of eight words.

    message -> padded -> blocks -> schedule -> rounds -> digest
-/

namespace Accounts.Digest

/-! ## Words and bytes -/

/-- Texts and digests as bytes. -/
abbrev Bytes := List UInt8

/-- The number that bytes write, first byte highest. -/
def beNat (bytes : Bytes) : Nat := bytes.foldl (fun n b => n * 256 + b.toNat) 0

/-- A number in so many bytes, highest first. -/
def beBytes : Nat → Nat → Bytes
  | 0, _ => []
  | count + 1, n => beBytes count (n / 256) ++ [UInt8.ofNat (n % 256)]

/-- Cut a list into pieces of one size; what does not fill a piece is left out. -/
def pieces (size : Nat) (xs : List α) : List (List α) :=
  (List.range (xs.length / size)).map fun i => (xs.drop (i * size)).take size

/-! ## Variants -/

/-- Three amounts by which a word is rotated or shifted. -/
structure Amounts where
  a : Nat
  b : Nat
  c : Nat

/-- One of the digests on words of `w` bits. -/
structure Variant (w : Nat) where
  rounds : Nat
  start : List (BitVec w)
  constants : List (BitVec w)
  size : Nat
  sum0 : Amounts
  sum1 : Amounts
  mix0 : Amounts
  mix1 : Amounts

/-- The round constants: places of the cube roots of the first primes. -/
def cubeConstants (w count : Nat) : List (BitVec w) :=
  ((primesBelow 410).take count).map fun p => BitVec.ofNat w (rootBits 3 w p)

/-- The start of the state: places of the square roots of primes. -/
def squareConstants (w skip : Nat) : List (BitVec w) :=
  (((primesBelow 60).drop skip).take 8).map fun p => BitVec.ofNat w (rootBits 2 w p)

/-- The digest of 256 bits. -/
def sha256Variant : Variant 32 where
  rounds := 64
  start := squareConstants 32 0
  constants := cubeConstants 32 64
  size := 32
  sum0 := ⟨2, 13, 22⟩
  sum1 := ⟨6, 11, 25⟩
  mix0 := ⟨7, 18, 3⟩
  mix1 := ⟨17, 19, 10⟩

/-- The digest of 512 bits. -/
def sha512Variant : Variant 64 where
  rounds := 80
  start := squareConstants 64 0
  constants := cubeConstants 64 80
  size := 64
  sum0 := ⟨28, 34, 39⟩
  sum1 := ⟨14, 18, 41⟩
  mix0 := ⟨1, 8, 7⟩
  mix1 := ⟨19, 61, 6⟩

/-- The digest of 384 bits. -/
def sha384Variant : Variant 64 :=
  { sha512Variant with start := squareConstants 64 8, size := 48 }

/-! ## Algorithm -/

/-- Three rotations of a word, added without carry. -/
def rotations (r : Amounts) (x : BitVec w) : BitVec w :=
  x.rotateRight r.a ^^^ x.rotateRight r.b ^^^ x.rotateRight r.c

/-- Two rotations and a shift of a word, added without carry. -/
def mixing (r : Amounts) (x : BitVec w) : BitVec w :=
  x.rotateRight r.a ^^^ x.rotateRight r.b ^^^ (x >>> r.c)

/-- The bytes of a block. -/
def blockBytes (w : Nat) : Nat := 2 * w

/-- A message with a one bit, zeros, and its length in bits, so that it fills blocks. -/
def padMessage (w : Nat) (message : Bytes) : Bytes :=
  let block := blockBytes w
  let used := message.length + 1 + w / 4
  message ++ 0x80 :: List.replicate ((block - used % block) % block) 0
    ++ beBytes (w / 4) (8 * message.length)

/-- Add words to a schedule whose last word comes first. -/
def extend (v : Variant w) : Nat → List (BitVec w) → List (BitVec w)
  | 0, ws => ws
  | count + 1, ws =>
    extend v count ((mixing v.mix1 (ws.getD 1 0) + ws.getD 6 0 + mixing v.mix0 (ws.getD 14 0)
      + ws.getD 15 0) :: ws)

/-- One word for each round. -/
def schedule (v : Variant w) (block : Bytes) : List (BitVec w) :=
  let words := (pieces (w / 8) block).map fun bytes => BitVec.ofNat w (beNat bytes)
  (extend v (v.rounds - 16) words.reverse).reverse

/-- The working state of the rounds. -/
structure Mix (w : Nat) where
  a : BitVec w
  b : BitVec w
  c : BitVec w
  d : BitVec w
  e : BitVec w
  f : BitVec w
  g : BitVec w
  h : BitVec w

/-- A state of eight words. -/
def Mix.ofWords (ws : List (BitVec w)) : Mix w :=
  ⟨ws.getD 0 0, ws.getD 1 0, ws.getD 2 0, ws.getD 3 0, ws.getD 4 0, ws.getD 5 0, ws.getD 6 0,
    ws.getD 7 0⟩

/-- The words of a state. -/
def Mix.words (s : Mix w) : List (BitVec w) := [s.a, s.b, s.c, s.d, s.e, s.f, s.g, s.h]

/-- One round with a constant and a word of the schedule. -/
def Mix.round (v : Variant w) (s : Mix w) (kw : BitVec w × BitVec w) : Mix w :=
  let choice := (s.e &&& s.f) ^^^ (~~~s.e &&& s.g)
  let majority := (s.a &&& s.b) ^^^ (s.a &&& s.c) ^^^ (s.b &&& s.c)
  let t1 := s.h + rotations v.sum1 s.e + choice + kw.1 + kw.2
  let t2 := rotations v.sum0 s.a + majority
  ⟨t1 + t2, s.a, s.b, s.c, s.d + t1, s.e, s.f, s.g⟩

/-- Mix a block into a state. -/
def compress (v : Variant w) (state : List (BitVec w)) (block : Bytes) : List (BitVec w) :=
  let mixed := (v.constants.zip (schedule v block)).foldl (Mix.round v) (Mix.ofWords state)
  List.zipWith (· + ·) state mixed.words

/-- The digest of a message. -/
def Variant.digest (v : Variant w) (message : Bytes) : Bytes :=
  let state := (pieces (blockBytes w) (padMessage w message)).foldl (compress v) v.start
  (state.flatMap fun x => beBytes (w / 8) x.toNat).take v.size

end Accounts.Digest
