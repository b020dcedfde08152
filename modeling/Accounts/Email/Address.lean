import Accounts.Email.Domain
import Accounts.Text.Utf8

/-!
# Email addresses

An address is a local part, an at sign and a domain.  The local part is one or more atoms with
points between them; an atom holds ASCII letters, digits and some signs, or characters of other
scripts.
-/

namespace Accounts.Email

open Text Unicode

/-- The ASCII signs of atoms. -/
def atomSigns : List Char := "!#$%&'*+-/=?^_`\x7b|\x7d~".toList

/-- An ASCII character of atoms. -/
def isAtomChar (c : Char) : Bool := isAlphanumeric c || atomSigns.contains c

/-- One or more atoms of given characters with points between them. -/
def isDotAtom (p : Char → Bool) (cs : List Char) : Bool :=
  (cs.splitOn '.').all fun atom => !atom.isEmpty && atom.all p

/-- The longest local part. -/
def maxLocalLength : Nat := 64

/-- A valid local part. -/
def isLocalPart (cs : List Char) : Bool :=
  cs.length ≤ maxLocalLength &&
    (isDotAtom isAtomChar cs
      || (isDotAtom (fun c => isAtomChar c || 128 ≤ c.toNat) cs && isSafe cs))

/-- The longest address, in bytes. -/
def maxAddressBytes : Nat := 254

/-- A valid local part and a valid domain make an address when its spellings are short enough:
as given, in normal form, and with the ASCII form of the domain. -/
def isAddressOf (localPart domain : List Char) : Bool :=
  let normal := composed localPart
  isLocalPart localPart && isLocalPart normal &&
    match Domain.ofChars? domain with
    | some d =>
      byteLength localPart + 1 + byteLength domain ≤ maxAddressBytes
        && byteLength normal + 1 + byteLength d.unicode ≤ maxAddressBytes
        && (!isAscii normal || normal.length + 1 + d.ascii.length ≤ maxAddressBytes)
    | none => false

/-- A valid email address. -/
def isAddress (s : String) : Bool :=
  match s.toList.dropWhile (· ≠ '@') with
  | _ :: domain => isAddressOf (s.toList.takeWhile (· ≠ '@')) domain
  | [] => false

end Accounts.Email
