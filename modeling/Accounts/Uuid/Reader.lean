import Accounts.Number.Decimal
import Accounts.Text.Cut
import Accounts.Text.Utf8
import Accounts.Uuid.Basic

/-!
# Reading identifiers in their written forms

Four forms are read: 32 digits, five groups with hyphens, and the groups between braces or after
`urn:uuid:`.  A text in none of them has one fault, found in a fixed
order: a wrong character, a wrong length, a wrong number of groups, a group of a wrong length.
-/

namespace Accounts.Uuid

open Number Text

/-- Why a text writes no identifier. -/
inductive Fault where
  | badCharacter (c : Char) (index : Nat)
  | badLength (found : Nat)
  | badGroupCount (found : Nat)
  | badGroupLength (group expected found : Nat)
  deriving DecidableEq

/-- The wording of a fault. -/
def Fault.message : Fault → String
  | badCharacter c index =>
    "invalid character: found `" ++ String.singleton c ++ "` at " ++ natText index
  | badLength found => "invalid length: found " ++ natText found
  | badGroupCount found => "invalid group count: expected 5, found " ++ natText found
  | badGroupLength group expected found =>
    "invalid group length in group " ++ natText group ++ ": expected " ++ natText expected
      ++ ", found " ++ natText found

/-- The text between braces. -/
def unbraced? : List Char → Option (List Char)
  | '\x7b' :: rest => if rest.getLast? = some '\x7d' then some rest.dropLast else none
  | _ => none

/-- The lengths of the groups. -/
def groupLengths : List Nat := [8, 4, 4, 4, 12]

/-- Five groups with hyphens between them. -/
def ofGroups? (cs : List Char) : Option Uuid :=
  let groups := cs.splitOn '-'
  if groups.map List.length = groupLengths then ofHex? groups.flatten else none

/-- A number in one of the written forms. -/
def ofChars? (cs : List Char) : Option Uuid :=
  match unbraced? cs, after? "urn:uuid:".toList cs with
  | some inner, _ => ofGroups? inner
  | none, some rest => ofGroups? rest
  | none, none => (ofHex? cs).or (ofGroups? cs)

/-- The first ASCII character that is neither a digit nor a hyphen, with its byte index. -/
def strayCharacter? : Nat → List Char → Option (Char × Nat)
  | _, [] => none
  | index, c :: cs =>
    if c.toNat < 128 ∧ c ≠ '-' ∧ (hexDigit? c).isNone then some (c, index)
    else strayCharacter? (index + c.utf8Size) cs

/-- The first group of a wrong length. -/
def wrongGroup : Nat → List Nat → List Nat → Fault
  | group, expected :: es, found :: fs =>
    if expected = found ∧ es ≠ [] then wrongGroup (group + 1) es fs
    else .badGroupLength group expected found
  | group, _, _ => .badGroupLength group 0 0

/-- The fault of the digits and hyphens of a text.  `plain` tells that nothing stood around
them. -/
def faultIn (plain : Bool) (start : Nat) (cs : List Char) : Fault :=
  match strayCharacter? start cs with
  | some (c, index) => .badCharacter c index
  | none =>
    let groups := cs.splitOn '-'
    if groups.length = 1 ∧ plain then .badLength (byteLength cs)
    else if groups.length ≠ 5 then .badGroupCount groups.length
    else wrongGroup 0 groupLengths (groups.map byteLength)

/-- The fault of a text in none of the forms. -/
def faultOf (cs : List Char) : Fault :=
  match unbraced? cs, after? "urn:uuid:".toList cs with
  | some inner, _ => faultIn false 1 inner
  | none, some rest => faultIn false 9 rest
  | none, none => faultIn true 0 cs

/-- The identifier that a text writes. -/
def read (s : String) : Except Fault Uuid :=
  match ofChars? s.toList with
  | some u => .ok u
  | none => .error (faultOf s.toList)

end Accounts.Uuid
