import Accounts.Email.Label
import Accounts.Unicode.DomainMapping

/-!
# Domains of addresses

A domain is mapped to its normal form, checked for its shape, brought into ASCII form label by
label, and read back: both forms must be valid.

    characters -> normal form -> labels -> ASCII labels -> labels
-/

namespace Accounts.Email

open Text Unicode

/-- A letter, number, punctuation or symbol, or a mark that is not first. -/
def isSafe (cs : List Char) : Bool :=
  cs.all (fun c => isGraphic c || isMark c) && !startsIn isMark cs

/-- An ASCII letter or digit. -/
def isAlphanumeric (c : Char) : Bool := c.isAlpha || c.isDigit

/-- A character that a domain may hold before and after the mapping. -/
def isDomainChar (c : Char) : Bool :=
  isAlphanumeric c || c = '-' || c = '.' || 128 ≤ c.toNat

/-- The normal form of a domain. -/
def mapDomain (cs : List Char) : List Char := composed (cs.flatMap mapDomainChar)

/-- A label with two hyphens after two characters is one in ASCII form. -/
def isReserved (label : List Char) : Bool :=
  (label.drop 2).take 2 == ['-', '-'] && asciiLower (label.take 2) != ['x', 'n']

/-- No label is empty or has a hyphen at an end. -/
def hasLabels (labels : List (List Char)) : Bool :=
  labels.all fun l => !l.isEmpty && l.head? != some '-' && l.getLast? != some '-'

/-- An ASCII label of a host name. -/
def isHostLabel (label : List Char) : Bool :=
  !label.isEmpty && label.all (fun c => isAlphanumeric c || c = '-')
    && label.head? != some '-' && label.getLast? != some '-'

/-- The labels in ASCII form. -/
def asciiLabels? (labels : List (List Char)) : Option (List (List Char)) :=
  if labels.all isHostLabel then some labels else labels.mapM asciiLabel?

/-- The labels with points between them. -/
def joinLabels (labels : List (List Char)) : List Char := ['.'].intercalate labels

/-- The longest ASCII form of a domain. -/
def maxDomainLength : Nat := 253

/-- Domains that no mail is delivered to; what is under them is excluded as well. -/
def specialDomains : List (List Char) :=
  ["arpa", "invalid", "local", "localhost", "onion", "test"].map String.toList

/-- A domain that mail can be delivered to: it has several labels, ends with a letter, and is not
under a special domain. -/
def isDeliverable (labels : List (List Char)) : Bool :=
  1 < labels.length
    && ((joinLabels labels).getLast?.map Char.isAlpha).getD false
    && !(labels.getLast?.map specialDomains.contains).getD false

/-- The lengths of the labels and of the domain are in bounds. -/
def lengthsFit (labels : List (List Char)) : Bool :=
  labels.all (·.length ≤ maxLabelLength) && (joinLabels labels).length ≤ maxDomainLength

/-- A domain in its two forms. -/
structure Domain where
  ascii : List Char
  unicode : List Char

/-- The two forms of a domain. -/
def Domain.ofChars? (cs : List Char) : Option Domain := do
  guard (!cs.isEmpty && cs.all isDomainChar && isSafe cs)
  let mapped := mapDomain cs
  let labels := mapped.splitOn '.'
  guard (mapped.all isDomainChar && isSafe mapped)
  guard (hasLabels labels && !labels.any isReserved)
  let ascii ← asciiLabels? labels
  guard (ascii.all isHostLabel && lengthsFit ascii && isDeliverable ascii)
  let unicode ← ascii.mapM unicodeLabel?
  guard ((joinLabels unicode).all isDomainChar && isSafe (joinLabels unicode))
  let back ← unicode.mapM asciiLabel?
  guard (lengthsFit back)
  return ⟨joinLabels ascii, joinLabels unicode⟩

end Accounts.Email
