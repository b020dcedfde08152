import Accounts.Digest.Sha2
import Accounts.Password.Cipher
import Accounts.Text.Loose
import Accounts.Text.Utf8
import Accounts.Number.Decimal

/-!
# Hashes of passwords

A hash names a version, a cost and a salt, and holds what a fixed text becomes under the cipher
that the password and the salt set up:

    $2b$04$abcdefghijklmnopqrstuu7z0…
     ver cost salt (22)           digest (31)

A password verifies against a hash when hashing it with the salt of that hash gives the same
text.
-/

namespace Accounts.Password

open Digest Number Text

/-! ## Base 64 of hashes -/

/-- The characters for six bits. -/
def alphabet : List Char :=
  "./ABCDEFGHIJKLMNOPQRSTUVWXYZabcdefghijklmnopqrstuvwxyz0123456789".toList

/-- The character of six bits. -/
def sixChar (n : Nat) : Char := alphabet.getD (n % 64) '.'

/-- The six bits of a character. -/
def sixBits? (c : Char) : Option Nat := alphabet.idxOf? c

/-- The text of bytes. -/
def encode64 : Bytes → List Char
  | [] => []
  | [a] => [sixChar (a.toNat / 4), sixChar (a.toNat % 4 * 16)]
  | [a, b] =>
    [sixChar (a.toNat / 4), sixChar (a.toNat % 4 * 16 + b.toNat / 16), sixChar (b.toNat % 16 * 4)]
  | a :: b :: c :: rest =>
    sixChar (a.toNat / 4) :: sixChar (a.toNat % 4 * 16 + b.toNat / 16)
      :: sixChar (b.toNat % 16 * 4 + c.toNat / 64) :: sixChar (c.toNat % 64) :: encode64 rest

/-- The number that the characters of a salt write; bits that no byte uses must be zero. -/
def saltNumber? (cs : List Char) : Option Nat := do
  let n ← cs.foldlM (fun n c => (sixBits? c).map (64 * n + ·)) 0
  if n % 16 = 0 then some (n / 16) else none

/-! ## Settings -/

/-- What a hash says about how it was made. -/
structure Settings where
  version : List Char
  cost : Nat
  saltText : List Char
  salt : Salt

/-- The versions of the format; they differ in name only. -/
def versions : List (List Char) := ["2a", "2b", "2x", "2y"].map String.toList

/-- The length of the salt in a hash. -/
def saltLength : Nat := 22

/-- The salt of a number of 128 bits. -/
def Salt.ofNat (n : Nat) : Salt :=
  ⟨.ofNat (n >>> 96), .ofNat (n >>> 64), .ofNat (n >>> 32), .ofNat n⟩

/-- A cost from 4 to 31, with an optional plus sign. -/
def cost? (cs : List Char) : Option Nat :=
  let digits := match cs with
    | '+' :: rest => rest
    | rest => rest
  (ofDigits? digits).filter fun n => 4 ≤ n && n ≤ 31

/-- The settings in a hash or in a salt alone. -/
def Settings.ofText? (s : String) : Option Settings :=
  match (s.toList.splitOn '$').filter (· ≠ []) with
  | [version, cost, rest] => do
    guard (versions.contains version)
    let cost ← cost? cost
    let saltText := rest.take saltLength
    guard (saltText.length = saltLength)
    return ⟨version, cost, saltText, Salt.ofNat (← saltNumber? saltText)⟩
  | _ => none

/-- The settings as text. -/
def Settings.chars (s : Settings) : List Char :=
  '$' :: (s.version ++ '$' :: (padded 2 s.cost ++ '$' :: s.saltText))

/-! ## Hashing -/

/-- The longest password, in bytes. -/
def maxBytes : Nat := 72

/-- The bytes of a password and a zero byte, repeated to the length of a key. -/
def keyMaterial (password : Bytes) : Bytes :=
  (List.replicate maxBytes (password ++ [0])).flatten.take maxBytes

/-- The words of bytes. -/
def wordsOf (bytes : Bytes) : List UInt32 :=
  (pieces 4 bytes).map fun b => UInt32.ofNat (beNat b)

/-- The text that is encrypted. -/
def magic : List Block :=
  match wordsOf (bytesOf "OrpheanBeholderScryDoubt") with
  | [a, b, c, d, e, f] => [⟨a, b⟩, ⟨c, d⟩, ⟨e, f⟩]
  | _ => []

/-- The bytes of a block. -/
def Block.bytes (b : Block) : Bytes := beBytes 4 b.left.toNat ++ beBytes 4 b.right.toNat

/-- The digest of a key. -/
def digest (cost : Nat) (salt : Salt) (key : Bytes) : Bytes :=
  let c := Cipher.setup cost salt (wordsOf key)
  (magic.flatMap fun b => (c.encryptTimes 64 b).bytes).take 23

/-- The hash of a password with the settings of a text; `none` when the text has no settings or
the password is too long. -/
def hashWith? (settings password : String) : Option String := do
  let s ← Settings.ofText? settings
  let bytes := bytesOf password
  guard (bytes.length ≤ maxBytes)
  return String.ofList (s.chars ++ encode64 (digest s.cost s.salt (keyMaterial bytes)))

/-- The outcome of a verification. -/
inductive Verdict where
  | accepted
  | refused
  /-- The hash or the password is not one that hashing takes. -/
  | unusable
  deriving DecidableEq

/-- Check a password against a stored hash; no hash refuses every password. -/
def verify (hash : Option String) (password : String) : Verdict :=
  let stored := hash.getD ""
  if stored.isEmpty then .refused
  else
    match hashWith? stored password with
    | some h => if h = stored then .accepted else .refused
    | none => .unusable

/-! ## Passwords that may be broken -/

/-- The hash of a password that may be broken; a broken one has no bytes to hash. -/
def hashLoose? (settings : String) (password : LooseText) : Option String :=
  match password.whole with
  | .ok password => hashWith? settings password
  | .error _ => none

/-- Check a password that may be broken against a stored hash. -/
def verifyLoose (hash : Option String) (password : LooseText) : Verdict :=
  match password.whole with
  | .ok password => verify hash password
  | .error _ => if (hash.getD "").isEmpty then .refused else .unusable

/-! ## Lemmas -/

@[simp] theorem hashLoose?_coe (settings password : String) :
    hashLoose? settings password = hashWith? settings password := rfl

theorem hashLoose?_of_isWhole {password : LooseText} (h : password.isWhole = true)
    (settings : String) : hashLoose? settings password = hashWith? settings password.chars := by
  unfold hashLoose?
  rw [LooseText.whole_of_isWhole h]

theorem verifyLoose_of_isWhole {password : LooseText} (h : password.isWhole = true)
    (hash : Option String) : verifyLoose hash password = verify hash password.chars := by
  unfold verifyLoose
  rw [LooseText.whole_of_isWhole h]

end Accounts.Password
