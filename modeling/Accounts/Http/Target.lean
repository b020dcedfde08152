import Accounts.Text.Cut
import Accounts.Text.Percent

/-!
# Targets of requests

A target is a path and a query.  The path loses its segments `.` and `..` first and its percent
encoding afterwards, so that an encoded point or slash is an ordinary character.

    Target.read "/auth/x/../%6De?a=b" = ⟨"/auth/me", "a=b"⟩
-/

namespace Accounts.Http

open Text

/-- What a request is for. -/
structure Target where
  path : List Char
  query : List Char
  deriving DecidableEq

namespace Target

/-! ## Dots -/

/-- The segments of a path after one more segment. -/
def step (done : List (List Char)) (segment : List Char) : List (List Char) :=
  if segment = ['.'] then done
  else if segment = ['.', '.'] then if done = [[]] then done else done.dropLast
  else done ++ [segment]

/-- The path without segments of one or two points; two points take the segment before away. -/
def withoutDots (path : List Char) : List Char :=
  ['/'].intercalate ((path.splitOn '/').foldl step [])

/-! ## Reading -/

/-- The text behind a host, when the text starts with one. -/
def afterHost : List Char → List Char
  | '/' :: '/' :: rest => rest.dropWhile (· ≠ '/')
  | cs => cs

/-- The path that a text writes; it starts with one slash. -/
def readPath (cs : List Char) : List Char :=
  let path := withoutDots ('/' :: (afterHost cs).dropWhile (· = '/'))
  if path.isEmpty then ['/'] else percentDecode path

/-- Read a target; what follows a number sign is left out. -/
def read (s : String) : Target :=
  let cs := s.toList.takeWhile (· ≠ '#')
  match cut? '?' cs with
  | some (path, query) => ⟨readPath path, query⟩
  | none => ⟨readPath cs, []⟩

/-! ## Writing -/

/-- The signs that stand for themselves in the address of another place. -/
def addressSigns : List Char := ":/%#?=@[]!$&'()*+,;".toList

/-- The address of a target at a host. -/
def address (host : String) (t : Target) : String :=
  let query := if t.query.isEmpty then [] else '?' :: t.query
  String.ofList (percentEncode addressSigns.contains (host.toList ++ t.path ++ query))

end Target

end Accounts.Http
