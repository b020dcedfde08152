import Accounts.Assoc
import Accounts.Text.Blank

/-!
# Files of variables

A file of lines `NAME=value`.  A line may start with `export`, a name may stand between single
quotes, and a value between single or double quotes with escapes.  An unquoted value ends with the
line or before a blank and `#`.  A line that is none of this is skipped.

    export NAME = "value"   # comment

Afterwards `${NAME}` and `${NAME:-default}` in values are replaced, by values of the file before
those of the environment.
-/

namespace Accounts.Settings

open Text

/-! ## Pieces -/

/-- A blank within a line. -/
def isLineBlank (c : Char) : Bool := isBlank c && c != '\n'

/-- The text after the blanks of the line. -/
def skipLineBlanks (cs : List Char) : List Char := cs.dropWhile isLineBlank

/-- The text after the end of the line, which only blanks and a comment may come before. -/
def lineEnd? (cs : List Char) : Option (List Char) :=
  let cs := skipLineBlanks cs
  let cs := match cs with
    | '#' :: _ => cs.dropWhile (· ≠ '\n')
    | _ => cs
  match cs with
  | [] => some []
  | '\n' :: rest => some rest
  | _ => none

/-- The text after the line. -/
def skipLine (cs : List Char) : List Char := (cs.dropWhile (· ≠ '\n')).drop 1

/-- The text after the word `export` and blanks. -/
def skipExport (cs : List Char) : List Char :=
  if "export".toList.isPrefixOf cs ∧ ((cs.drop 6).head?.map isLineBlank).getD false then
    skipLineBlanks (cs.drop 6)
  else cs

/-- A name and the text after it. -/
def takeName? (cs : List Char) : Option (List Char × List Char) :=
  match cs with
  | '\'' :: rest =>
    let name := rest.takeWhile (· ≠ '\'')
    match rest.dropWhile (· ≠ '\'') with
    | _ :: after => if name.isEmpty then none else some (name, after)
    | [] => none
  | _ =>
    let inName (c : Char) : Bool := c != '=' && c != '#' && !isBlank c
    let name := cs.takeWhile inName
    if name.isEmpty then none else some (name, cs.dropWhile inName)

/-! ## Values -/

/-- Text up to a closing quote, with escaped quotes in it, and the text after. -/
def untilQuote? (mark : Char) : List Char → Option (List Char × List Char)
  | [] => none
  | '\\' :: c :: rest =>
    if c = mark then
      -- without another closing quote this one closes after all
      match untilQuote? mark rest with
      | some (value, after) => some ('\\' :: c :: value, after)
      | none => some (['\\'], rest)
    else
      match untilQuote? mark (c :: rest) with
      | some (value, after) => some ('\\' :: value, after)
      | none => none
  | c :: rest =>
    if c = mark then some ([], rest)
    else
      match untilQuote? mark rest with
      | some (value, after) => some (c :: value, after)
      | none => none

/-- The character of an escape between double quotes. -/
def doubleEscape? (c : Char) : Option Char :=
  if c = '\\' ∨ c = '\'' ∨ c = '"' then some c
  else if c = 'a' then some '\x07'
  else if c = 'b' then some '\x08'
  else if c = 'f' then some '\x0c'
  else if c = 'n' then some '\n'
  else if c = 'r' then some '\r'
  else if c = 't' then some '\t'
  else if c = 'v' then some '\x0b'
  else none

/-- The character of an escape between single quotes. -/
def singleEscape? (c : Char) : Option Char :=
  if c = '\\' ∨ c = '\'' then some c else none

/-- Replace escapes; a backslash before another character stays. -/
def unescape (escape? : Char → Option Char) : List Char → List Char
  | '\\' :: c :: rest =>
    match escape? c with
    | some d => d :: unescape escape? rest
    | none => '\\' :: unescape escape? (c :: rest)
  | c :: rest => c :: unescape escape? rest
  | [] => []

/-- The part of an unquoted value before a blank and a comment. -/
def beforeComment : List Char → List Char
  | c :: '#' :: rest => if isBlank c then [] else c :: beforeComment ('#' :: rest)
  | c :: rest => c :: beforeComment rest
  | [] => []

/-- A value and the text after it. -/
def takeValue? (cs : List Char) : Option (List Char × List Char) :=
  match cs with
  | '\'' :: rest => (untilQuote? '\'' rest).map fun (v, after) => (unescape singleEscape? v, after)
  | '"' :: rest => (untilQuote? '"' rest).map fun (v, after) => (unescape doubleEscape? v, after)
  | _ =>
    some (dropRightWhile isBlank (beforeComment (cs.takeWhile (· ≠ '\n'))),
      cs.dropWhile (· ≠ '\n'))

/-! ## Lines -/

/-- A name with its value, if it has one. -/
abbrev Binding := String × Option (List Char)

/-- The binding at the front of a text and the text after its line. -/
def takeBinding? (cs : List Char) : Option (Option Binding × List Char) :=
  match cs with
  | '#' :: _ => (lineEnd? cs).map fun rest => (none, rest)
  | _ => do
    let (name, cs) ← takeName? (skipExport cs)
    let name := String.ofList name
    match skipLineBlanks cs with
    | '=' :: cs =>
      let (value, cs) ← takeValue? (skipLineBlanks cs)
      return (some (name, some value), ← lineEnd? cs)
    | cs => return (some (name, none), ← lineEnd? cs)

/-- Where a line that holds no binding stops being read: behind what its beginning took. -/
def faultPoint (cs : List Char) : List Char :=
  match takeName? (skipExport cs) with
  | none => skipExport cs
  | some (_, cs) =>
    match skipLineBlanks cs with
    | '=' :: cs =>
      match takeValue? (skipLineBlanks cs) with
      | some (_, cs) => cs
      | none => skipLineBlanks cs
    | cs => cs

/-- The bindings of a text.  The fuel bounds the number of lines. -/
def bindings : Nat → List Char → List Binding
  | 0, _ => []
  | fuel + 1, cs =>
    match cs.dropWhile isBlank with
    | [] => []
    | cs =>
      match takeBinding? cs with
      | some (some b, rest) => b :: bindings fuel rest
      | some (none, rest) => bindings fuel rest
      | none => bindings fuel (skipLine (faultPoint cs))

/-! ## Replacement of names -/

/-- The name and default of a reference, and the text after it. -/
def takeReference? (cs : List Char) : Option (List Char × List Char × List Char) :=
  match cs with
  | '$' :: '\x7b' :: rest =>
    let inName (c : Char) : Bool := c != '\x7d' && c != ':'
    let name := rest.takeWhile inName
    match rest.dropWhile inName with
    | '\x7d' :: after => some (name, [], after)
    | ':' :: '-' :: rest =>
      match rest.dropWhile (· ≠ '\x7d') with
      | _ :: after => some (name, rest.takeWhile (· ≠ '\x7d'), after)
      | [] => none
    | _ => none
  | _ => none

/-- Replace the references in a text.  The fuel bounds its length. -/
def expand (lookup : String → Option (Option (List Char))) : Nat → List Char → List Char
  | 0, cs => cs
  | _ + 1, [] => []
  | fuel + 1, c :: cs =>
    match takeReference? (c :: cs) with
    | some (name, default, after) =>
      let value := match lookup (String.ofList name) with
        | some (some v) => v
        | some none => []
        | none => default
      value ++ expand lookup fuel after
    | none => c :: expand lookup fuel cs

/-- Replace the references in the values of bindings in turn. -/
def resolve (environment : List (String × String)) :
    List (String × Option (List Char)) → List Binding → List (String × Option (List Char))
  | done, [] => done
  | done, (name, value) :: rest =>
    let lookup (n : String) : Option (Option (List Char)) :=
      (Assoc.get? n done).or ((Assoc.get? n environment).map fun v => some v.toList)
    let value := value.map fun v => expand lookup v.length v
    resolve environment (Assoc.set name value done) rest

/-- Line ends in one form. -/
def unifyLineEnds : List Char → List Char
  | '\r' :: '\n' :: rest => '\n' :: unifyLineEnds rest
  | '\r' :: rest => '\n' :: unifyLineEnds rest
  | c :: rest => c :: unifyLineEnds rest
  | [] => []

/-- The variables of a file, with their values where they have any. -/
def readFile (environment : List (String × String)) (text : String) :
    List (String × Option String) :=
  let cs := unifyLineEnds text.toList
  (resolve environment [] (bindings (cs.length + 1) cs)).map fun (name, value) =>
    (name, value.map String.ofList)

end Accounts.Settings
