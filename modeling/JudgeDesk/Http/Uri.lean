/-!
# Addresses of requests

A request says which resource it is for by a path, and may add a query. Both may stand after the
name of a machine, which itself stands after a scheme.

* `pathOf`, `queryOf` — the two of them in the text of an address. What follows a number sign is
  for the reader of the answer and is part of neither.
-/

namespace JudgeDesk.Http

/-- An address without the part that is for the reader of the answer. -/
def withoutFragment (uri : String) : List Char := uri.toList.takeWhile (· ≠ '#')

/-- The characters of a scheme. -/
def isSchemeChar (c : Char) : Bool := c.isAlphanum || c == '+' || c == '-' || c == '.'

/-- What follows a scheme and the sign after it, if there is one. -/
def afterScheme? (cs : List Char) : Option (List Char) :=
  match cs.dropWhile isSchemeChar with
  | ':' :: '/' :: '/' :: rest => some rest
  | _ => none

/-- The path and the query of an address as one text. A machine that is named without a path is
asked for its root; an address that is no path and has no scheme is the name of a machine alone. -/
def pathAndQuery (uri : String) : List Char :=
  match withoutFragment uri with
  | '/' :: rest => '/' :: rest
  | ['*'] => ['*']
  | cs =>
    match afterScheme? cs with
    | none => []
    | some rest =>
      match rest.dropWhile fun c => c ≠ '/' && c ≠ '?' with
      | '/' :: path => '/' :: path
      | query => '/' :: query

/-- **The path** of an address. -/
def pathOf (uri : String) : String :=
  String.ofList ((pathAndQuery uri).takeWhile (· ≠ '?'))

/-- **The query** of an address, empty if it has none. -/
def queryOf (uri : String) : String :=
  String.ofList (((pathAndQuery uri).dropWhile (· ≠ '?')).drop 1)

/-- The segments of a path, that is, what stands between its slashes. -/
def segmentsFrom (segment : List Char) : List Char → List String
  | [] => [String.ofList segment.reverse]
  | '/' :: rest => String.ofList segment.reverse :: segmentsFrom [] rest
  | c :: rest => segmentsFrom (c :: segment) rest

/-- The segments of a text, split at every slash. -/
def segments (text : List Char) : List String := segmentsFrom [] text

end JudgeDesk.Http
