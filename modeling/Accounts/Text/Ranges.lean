/-!
# Classes of code points as ranges

A class is a list of closed ranges in increasing order.  Large classes are written packed: a text
of hexadecimal numbers, two for each range, the number of code points skipped since the range
before and the number of code points in the range.
-/

namespace Accounts.Text

/-- Closed ranges of code points. -/
abbrev Ranges := List (Nat × Nat)

/-- Membership of a character. -/
def Ranges.has (rs : Ranges) (c : Char) : Bool :=
  rs.any fun r => r.1 ≤ c.toNat && c.toNat ≤ r.2

/-- The value of a hexadecimal digit of either case. -/
def hexDigit? (c : Char) : Option Nat :=
  let n := c.toNat
  if 48 ≤ n && n ≤ 57 then some (n - 48)
  else if 97 ≤ n && n ≤ 102 then some (n - 87)
  else if 65 ≤ n && n ≤ 70 then some (n - 55)
  else none

/-- The number that hexadecimal digits write; other characters count as zero. -/
def hexValue (cs : List Char) : Nat :=
  cs.foldl (fun n c => 16 * n + (hexDigit? c).getD 0) 0

/-- The hexadecimal digit of the low four bits of a number, in lowercase. -/
def hexChar (n : Nat) : Char :=
  if n % 16 < 10 then Char.ofNat (48 + n % 16) else Char.ofNat (87 + n % 16)

/-- The last `count` hexadecimal digits of a number. -/
def hexPlaces : Nat → Nat → List Char
  | 0, _ => []
  | count + 1, n => hexPlaces count (n / 16) ++ [hexChar n]

/-- The words of a packed table, which stand between spaces and line ends. -/
def words (s : String) : List (List Char) :=
  ((s.toList.map fun c => if c = '\n' then ' ' else c).splitOn ' ').filter (· ≠ [])

/-- The hexadecimal numbers of a packed table. -/
def packedNumbers (s : String) : List Nat :=
  (words s).map hexValue

/-- Read the ranges back from the pairs of a packed table. -/
def unpackRanges : Nat → List Nat → Ranges
  | start, skip :: size :: rest =>
    (start + skip, start + skip + size - 1) :: unpackRanges (start + skip + size) rest
  | _, _ => []

/-- The class written by a packed table. -/
def Ranges.ofPacked (s : String) : Ranges :=
  unpackRanges 0 (packedNumbers s)

/-! ## Runs with a value -/

/-- Consecutive code points with a value. -/
structure ValuedRun where
  first : Nat
  count : Nat
  value : Nat

/-- Membership of a code point. -/
def ValuedRun.has (r : ValuedRun) (n : Nat) : Bool :=
  r.first ≤ n && n < r.first + r.count

/-- Read runs back from a packed table: the code points skipped, the code points in the run, and
the value. -/
def ValuedRun.unpack : Nat → List Nat → List ValuedRun
  | start, skip :: count :: value :: rest =>
    ⟨start + skip, count, value⟩ :: unpack (start + skip + count) rest
  | _, _ => []

end Accounts.Text
