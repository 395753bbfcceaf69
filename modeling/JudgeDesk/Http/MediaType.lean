/-!
# Media types

The type of a body is a name in two halves, with parameters.

* `MediaType`, `MediaType.ofText?` — a media type and its reading;
* `MediaType.isJson` — the types of documents;
* `MediaType.boundary?` — what separates the parts of a form.
-/

namespace JudgeDesk.Http

/-- **A media type.** -/
structure MediaType where
  /-- the first half, in lower case -/
  main : String
  /-- the second half without what follows its last plus sign, in lower case -/
  sub : String
  /-- what follows the last plus sign of the second half -/
  suffix : Option String := none
  /-- the parameters, their names in lower case -/
  parameters : List (String × String) := []
  deriving DecidableEq, Repr

namespace MediaType

/-- The characters of names and of values without quotes. -/
def isToken (c : Char) : Bool :=
  c.isAlphanum || "!#$%&'*+-.^_`|~".toList.contains c

/-- The characters of values between quotes. -/
def isQuotable (c : Char) : Bool := 0x20 ≤ c.toNat && c.toNat ≠ 0x7F

/-- The characters that a type may be made of at all: those of ASCII that can be seen, and
blanks. -/
def isPrintable (c : Char) : Bool := (0x20 ≤ c.toNat && c.toNat < 0x7F) || c == '\t'

/-- A text in lower case, as far as it is ASCII. -/
def lower (cs : List Char) : String := String.ofList (cs.map Char.toLower)

/-- The two pieces of a text around the last plus sign that does not stand at its start. -/
def splitSuffix (cs : List Char) : List Char × Option (List Char) :=
  let after := (cs.drop 1).reverse.takeWhile (· ≠ '+')
  if (cs.drop 1).contains '+' then
    (cs.take (cs.length - after.length - 1), some after.reverse)
  else (cs, none)

/-- A value between quotes, and what follows it. It has at least one character. -/
def quotedValue (value : List Char) : List Char → Option (List Char × List Char)
  | [] => none
  | c :: rest =>
    if c = '"' ∧ value ≠ [] then some (value.reverse, rest)
    else if isQuotable c then quotedValue (c :: value) rest
    else none

/-- What follows the semicolon after a value between quotes; only spaces may come first. -/
def afterQuoted : List Char → Option (List Char)
  | [] => some []
  | ';' :: rest => some rest
  | ' ' :: rest => afterQuoted rest
  | _ => none

/-- A value without quotes, which a semicolon or the end of the text ends, and what follows it. -/
def plainValue (cs : List Char) : Option (List Char × List Char) :=
  let value := cs.takeWhile isToken
  match cs.dropWhile isToken with
  | [] => some (value, [])
  | ';' :: rest => if value = [] then none else some (value, rest)
  | _ => none

/-- The value of a parameter, and what follows it. -/
def value? : List Char → Option (List Char × List Char)
  | '"' :: rest => do
    let (value, rest) ← quotedValue [] rest
    let rest ← afterQuoted rest
    return (value, rest)
  | cs => plainValue cs

/-- The parameters of a type. `fuel` bounds their number; there are no more than characters. -/
def parameters? : (fuel : Nat) → List Char → Option (List (String × String))
  | 0, _ => none
  | fuel + 1, cs =>
    match cs.dropWhile (· = ' ') with
    | [] => some []
    | cs => do
      let name := cs.takeWhile isToken
      match cs.dropWhile isToken with
      | '=' :: rest =>
        if name = [] then none
        else do
          let (value, rest) ← value? rest
          let others ← parameters? fuel rest
          return (lower name, String.ofList value) :: others
      | _ => none

/-- **Reading a media type.** -/
def ofText? (s : String) : Option MediaType :=
  let cs := s.toList
  let main := cs.takeWhile isToken
  if !cs.all isPrintable || main = [] then none
  else
    match cs.dropWhile isToken with
    | '/' :: rest =>
      let (sub, suffix) := splitSuffix (rest.takeWhile isToken)
      let type (parameters : List (String × String)) : MediaType :=
        { main := lower main, sub := lower sub, suffix := suffix.map lower, parameters }
      match rest.dropWhile isToken with
      | [] => some (type [])
      | ';' :: more =>
        if sub = [] then none else (parameters? (more.length + 1) more).map type
      | _ => none
    | _ => none

/-- **The types of documents**: one of the second half, or one that says so at its end. -/
def isJson (t : MediaType) : Bool :=
  t.main = "application" && (t.sub = "json" || t.suffix = some "json")

/-- **What separates the parts** of a form, if the type is that of a form. -/
def boundary? (t : MediaType) : Option String :=
  if t.main = "multipart" && t.sub = "form-data" then t.parameters.lookup "boundary" else none

end MediaType

end JudgeDesk.Http
