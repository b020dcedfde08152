import Accounts.Json.Reader
import Accounts.Text.Cut

/-!
# Signing keys

A signing key is a secret text.  It must not be empty, and it must not look like a key of another
kind: an armoured key or certificate, a public key of a shell, or a key in JSON.
-/

namespace Accounts.Token

open Text

/-- Why a text is no signing key. -/
inductive KeyFault where
  | empty
  | asymmetric
  | jsonKey
  deriving DecidableEq

/-- The wording of a fault. -/
def KeyFault.message : KeyFault → String
  | empty => "HMAC key must not be empty."
  | asymmetric =>
    "The specified key is an asymmetric key or x509 certificate and should not be used as an HMAC secret."
  | jsonKey =>
    "The specified key looks like a JWK and should not be used directly as an HMAC secret. Load it via PyJWK / HMACAlgorithm.from_jwk first."

/-! ## Armour -/

/-- What armour can hold. -/
def armourLabels : List String :=
  ["CERTIFICATE", "TRUSTED CERTIFICATE", "PRIVATE KEY", "PUBLIC KEY", "ENCRYPTED PRIVATE KEY",
    "OPENSSH PRIVATE KEY", "DSA PRIVATE KEY", "RSA PRIVATE KEY", "RSA PUBLIC KEY",
    "EC PRIVATE KEY", "DH PARAMETERS", "NEW CERTIFICATE REQUEST", "CERTIFICATE REQUEST",
    "SSH2 PUBLIC KEY", "SSH2 ENCRYPTED PRIVATE KEY", "X509 CRL"]

/-- What is left after a hyphen or a space. -/
def afterDash? : List Char → Option (List Char)
  | c :: cs => if c = '-' ∨ c = ' ' then some cs else none
  | [] => none

/-- What is left after a line of armour with a word and a label. -/
def afterArmour? (word label : String) (cs : List Char) : Option (List Char) := do
  let cs ← after? "----".toList cs
  let cs ← afterDash? cs
  let cs ← after? (word ++ " " ++ label).toList cs
  let cs ← afterDash? cs
  after? "----".toList cs

/-- A rest of the text has a property. -/
def someRest (p : List Char → Bool) : List Char → Bool
  | [] => p []
  | c :: cs => p (c :: cs) || someRest p cs

/-- What is left after the end of a line. -/
def afterLineEnd? : List Char → Option (List Char)
  | '\n' :: cs => some cs
  | '\r' :: '\n' :: cs => some cs
  | _ => none

/-- A closing line of armour comes after at least one character. -/
def closes (label : String) : List Char → Bool
  | [] => false
  | _ :: cs => someRest (fun rest => ((after? ['\n'] rest).bind (afterArmour? "END" label)).isSome) cs

/-- Armour of a label starts here. -/
def opens (label : String) (cs : List Char) : Bool :=
  match (afterArmour? "BEGIN" label cs).bind afterLineEnd? with
  | some body => closes label body
  | none => false

/-- The text holds an armoured key or certificate. -/
def isArmoured (cs : List Char) : Bool :=
  someRest (fun rest => armourLabels.any fun label => opens label rest) cs

/-! ## Shell keys -/

/-- The kinds of public keys of a shell. -/
def shellKeyKinds : List String :=
  ["ssh-ed25519", "ssh-rsa", "ssh-dss", "ecdsa-sha2-nistp256", "ecdsa-sha2-nistp384",
    "ecdsa-sha2-nistp521"]

/-- A blank of ASCII. -/
def isAsciiBlank (c : Char) : Bool := (9 ≤ c.toNat && c.toNat ≤ 13) || c = ' '

/-- The first word of two, with blanks or tabs between them. -/
def firstOfTwo? (cs : List Char) : Option (List Char) :=
  let word := cs.takeWhile fun c => !isAsciiBlank c
  let rest := cs.dropWhile fun c => !isAsciiBlank c
  let after := rest.dropWhile fun c => c = ' ' || c = '\t'
  match after with
  | c :: _ => if !word.isEmpty && after.length < rest.length && !isAsciiBlank c then some word else none
  | [] => none

/-- The text is a public key or certificate of a shell. -/
def isShellKey (cs : List Char) : Bool :=
  shellKeyKinds.any (fun kind => kind.toList.isPrefixOf cs)
    || ((firstOfTwo? cs).map fun word => "-cert-v01@openssh.com".toList.isSuffixOf word).getD false

/-! ## Keys -/

/-- The text is JSON and an object in it says what kind of key it is. -/
def isJsonKey (secret : String) : Bool :=
  match Json.ofText secret with
  | some j => j.mentions "kty"
  | none => false

/-- Why a secret cannot sign, if it cannot. -/
def keyFault? (secret : String) : Option KeyFault :=
  if secret.isEmpty then some .empty
  else if isArmoured secret.toList || isShellKey secret.toList then some .asymmetric
  else if isJsonKey secret then some .jsonKey
  else none

end Accounts.Token
