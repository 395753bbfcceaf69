import JudgeDesk.Http.Query

/-!
# Locations

The location of a resource is typed as one text: a scheme, the name of a machine, a path, and maybe
a query. What is asked for at the machine is written with fewer characters than may be typed, and
without detours.

* `Location`, `Location.ofText` — the path and the query of a typed location;
* `Location.withQuery` — the location with some pairs more in its query.
-/

namespace JudgeDesk.Http

/-- **What is asked for** at a machine. -/
structure Location where
  /-- the path -/
  path : String
  /-- the query, if there is one -/
  query : Option String := none
  deriving DecidableEq, Repr

namespace Location

/-- The characters for one byte that is not written as it is. -/
def escaped (b : UInt8) : List Char :=
  ['%', upperDigit (b.toNat / 16), upperDigit (b.toNat % 16)]

/-- A text in which every character beyond ASCII, every control, and those of a set are escaped. -/
def escapedText (reserved : List Char) (cs : List Char) : List Char :=
  cs.flatMap fun c =>
    if 0x20 ≤ c.toNat ∧ c.toNat < 0x7F ∧ c ∉ reserved then [c]
    else (String.utf8EncodeChar c).flatMap escaped

/-- What is escaped in a path. -/
def reservedInPath : List Char := [' ', '"', '<', '>', '`', '\x7b', '\x7d']

/-- What is escaped in a query. -/
def reservedInQuery : List Char := [' ', '"', '<', '>', '\'']

/-- Tabs and line ends, which do not count wherever they stand. -/
def isLayout (c : Char) : Bool := c == '\t' || c == '\n' || c == '\r'

/-- Either of the two slashes. -/
def isSlash (c : Char) : Bool := c == '/' || c == '\\'

/-- What stands between slashes. -/
def piecesFrom (piece : List Char) : List Char → List (List Char)
  | [] => [piece.reverse]
  | c :: rest =>
    if isSlash c then piece.reverse :: piecesFrom [] rest else piecesFrom (c :: piece) rest

/-- A piece with its escaped dots put back. -/
def dots : List Char → List Char
  | '%' :: '2' :: e :: rest =>
    if e = 'e' ∨ e = 'E' then '.' :: dots rest else '%' :: '2' :: dots (e :: rest)
  | c :: rest => c :: dots rest
  | [] => []

/-- Whether a piece names a drive: a letter with a colon or a bar. No detour leaves a drive. -/
def isDrive : List Char → Bool
  | [c, mark] => c.isAlpha && (mark == ':' || mark == '|')
  | _ => false

/-- The way back from a place, given by the pieces that lead there, the last one first. -/
def parent : List (List Char) → List (List Char)
  | [] => []
  | piece :: rest => if isDrive piece then piece :: rest else rest

/-- The pieces of a path without detours. `done` are those so far, the last one first. -/
def straightened (done : List (List Char)) : List (List Char) → List (List Char)
  | [] => done.reverse
  | [last] =>
    if dots last = ['.', '.'] then ([] :: parent done).reverse
    else if dots last = ['.'] then ([] :: done).reverse
    else (last :: done).reverse
  | piece :: rest =>
    if dots piece = ['.', '.'] then straightened (parent done) rest
    else if dots piece = ['.'] then straightened done rest
    else straightened (piece :: done) rest

/-- The path that is typed as a text, from its first slash on. -/
def pathOf (cs : List Char) : String :=
  let pieces := piecesFrom [] (cs.drop 1)
  String.ofList ((straightened [] pieces).flatMap fun piece =>
    '/' :: escapedText reservedInPath piece)

/-- **Reading a location.** What follows a number sign is for the reader of the answer. -/
def ofText (s : String) : Location :=
  let cs := (s.toList.filter (!isLayout ·)).takeWhile (· ≠ '#')
  let machine := ((cs.dropWhile (· ≠ ':')).drop 1).dropWhile isSlash
  let path := machine.dropWhile fun c => !isSlash c && c ≠ '?'
  { path := pathOf (path.takeWhile (· ≠ '?'))
    query := match path.dropWhile (· ≠ '?') with
      | [] => none
      | _ :: query => some (String.ofList (escapedText reservedInQuery query)) }

/-- **A longer query.** -/
def withQuery (l : Location) (q : Query) : Location :=
  match l.query, q with
  | _, [] => l
  | none, q => { l with query := some q.text }
  | some "", q => { l with query := some q.text }
  | some before, q => { l with query := some (before ++ "&" ++ q.text) }

end Location

end JudgeDesk.Http
