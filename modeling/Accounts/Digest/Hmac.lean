import Accounts.Digest.Sha2

/-!
# Message authentication with a keyed digest

    hmac key message = digest (key ⊕ outer ++ digest (key ⊕ inner ++ message))
-/

namespace Accounts.Digest

/-- The digests that a message can be signed with. -/
inductive Hash where
  | sha256
  | sha384
  | sha512
  deriving DecidableEq, Repr

/-- The digest of a message. -/
def Hash.digest : Hash → Bytes → Bytes
  | sha256 => sha256Variant.digest
  | sha384 => sha384Variant.digest
  | sha512 => sha512Variant.digest

/-- The bytes of a block. -/
def Hash.block : Hash → Nat
  | sha256 => blockBytes 32
  | sha384 => blockBytes 64
  | sha512 => blockBytes 64

/-- A key that fills one block: a longer one is digested first. -/
def Hash.blockKey (h : Hash) (key : Bytes) : Bytes :=
  let key := if h.block < key.length then h.digest key else key
  key ++ List.replicate (h.block - key.length) 0

/-- The authentication code of a message under a key. -/
def Hash.hmac (h : Hash) (key message : Bytes) : Bytes :=
  let key := h.blockKey key
  h.digest (key.map (· ^^^ 0x5C) ++ h.digest (key.map (· ^^^ 0x36) ++ message))

end Accounts.Digest
