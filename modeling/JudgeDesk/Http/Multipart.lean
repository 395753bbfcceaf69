import JudgeDesk.Http.Part
import JudgeDesk.Http.MediaType

/-!
# Forms in parts

A form that may hold files is sent as parts with a boundary between them. Each part begins with
headers, one of which names it, and ends where the next boundary is found. The bytes may break off
anywhere.

* `splitAt?` — bytes before and after the first place of some others;
* `Headers` — the headers of a part;
* `parameter?` — a parameter in the header that names a part;
* `Multipart.read` — the parts of a form, and how the form ends.
-/

namespace JudgeDesk.Http

/-- **Splitting** bytes around the first place where others stand. -/
def splitAt? (mark : Bytes) (before : Bytes) : Bytes → Option (Bytes × Bytes)
  | [] => if mark.isEmpty then some (before.reverse, []) else none
  | b :: rest =>
    if mark.isPrefixOf (b :: rest) then some (before.reverse, (b :: rest).drop mark.length)
    else splitAt? mark (b :: before) rest

/-- The end of a line. -/
def lineEnd : Bytes := [0x0D, 0x0A]

/-- Two dashes, before a boundary and after the last one. -/
def dashes : Bytes := [0x2D, 0x2D]

/-! ### Headers -/

/-- The headers of a part: their names in lower case, and their values. -/
abbrev Headers := List (Bytes × Bytes)

/-- The bytes of a header name. -/
def isNameByte (b : UInt8) : Bool :=
  let c := Char.ofNat b.toNat
  b.toNat < 0x80 && (c.isAlphanum || "!#$%&'*+-.^_`|~".toList.contains c)

/-- The bytes of a header value. -/
def isValueByte (b : UInt8) : Bool := b = 0x09 || (0x20 ≤ b && b ≠ 0x7F)

/-- A byte in lower case, if it is a letter. -/
def lowerByte (b : UInt8) : UInt8 := if 0x41 ≤ b ∧ b ≤ 0x5A then b + 0x20 else b

/-- Whether a byte is a space or a tab. -/
def isSpaceByte (b : UInt8) : Bool := b = 0x20 || b = 0x09

/-- Bytes without the spaces and tabs at their end. -/
def withoutEndSpace (bs : Bytes) : Bytes := (bs.reverse.dropWhile isSpaceByte).reverse

/-- One header. -/
def header? (line : Bytes) : Option (Bytes × Bytes) :=
  let name := line.takeWhile isNameByte
  match line.dropWhile isNameByte with
  | 0x3A :: value =>
    if name.isEmpty || !value.all isValueByte then none
    else some (name.map lowerByte, withoutEndSpace (value.dropWhile isSpaceByte))
  | _ => none

/-- The most headers that a part may have. -/
def maxHeaders : Nat := 32

/-- The lines of a block up to an empty one; a line may also end with a single line feed. -/
def headerLines (line : Bytes) : Bytes → List Bytes
  | [] => [line.reverse]
  | b :: rest =>
    if b = 0x0A then
      let line := match line with
        | 0x0D :: more => more
        | line => line
      if line.isEmpty then [] else line.reverse :: headerLines [] rest
    else headerLines (b :: line) rest

/-- **The headers** of a block, if all its lines are headers and there are not too many. -/
def headers? (block : Bytes) : Option Headers :=
  let lines := headerLines [] block
  if lines.length ≤ maxHeaders then lines.mapM header? else none

/-! ### The header that names a part -/

/-- A value between quotes, up to a quote that no backslash precedes. -/
def quotedParameter (value : Bytes) : Bytes → Option Bytes
  | [] => none
  | 0x5C :: 0x22 :: rest => quotedParameter (0x22 :: value) rest
  | 0x22 :: _ => some value.reverse
  | b :: rest => quotedParameter (b :: value) rest

/-- The value of a parameter after its equals sign. One without quotes ends at a semicolon or a
space. -/
def parameterValue (bs : Bytes) : Option Bytes :=
  match bs.dropWhile isSpaceByte with
  | 0x22 :: rest => quotedParameter [] rest
  | bs => some (bs.takeWhile fun b => b ≠ 0x3B && b ≠ 0x20)

/-- What follows the first place where a name stands as a word of its own, at the start or after a
space, a tab or a semicolon. -/
def afterName? (name : Bytes) (previous : Option UInt8) : Bytes → Option Bytes
  | [] => none
  | b :: rest =>
    if name.isPrefixOf (b :: rest) then
      if previous.all fun p => isSpaceByte p || p = 0x3B then some (rest.drop (name.length - 1))
      else afterName? name none (rest.drop (name.length - 1))
    else afterName? name (some b) rest
  termination_by bs => bs.length
  decreasing_by all_goals simp only [List.length_drop, List.length_cons]; omega

/-- **A parameter** in the header that names a part. -/
def parameter? (name : String) (header : Bytes) : Option String :=
  match afterName? (Text.bytes name) none header with
  | none => none
  | some rest =>
    match rest.dropWhile isSpaceByte with
    | 0x3D :: value => (parameterValue value).map Text.lossy
    | _ => none

/-! ### Parts -/

/-- How a form ends. -/
inductive FormEnd where
  /-- with its last boundary -/
  | closed
  /-- before the content of another part -/
  | broken
  /-- in the content of a part, whose name is known -/
  | brokenIn (name : String)
  deriving DecidableEq, Repr

namespace Multipart

/-- The name, the file name and the charset in the headers of a part, whose content is not known
yet. Of two headers of one name the later one counts. -/
def partOf (headers : Headers) : Part :=
  let disposition := (headers.reverse.lookup (Text.bytes "content-disposition")).getD []
  let contentType := headers.reverse.lookup (Text.bytes "content-type")
  { name := parameter? "name" disposition
    filename := parameter? "filename" disposition
    charset := do
      let type ← MediaType.ofText? (Text.lossy (← contentType))
      type.parameters.lookup "charset"
    content := [] }

/-- The headers of the part that begins after a boundary, and what follows them. -/
def begin? (bs : Bytes) : Option (Headers × Bytes) := do
  let rest := bs.dropWhile isSpaceByte
  guard (lineEnd.isPrefixOf rest)
  let (block, rest) ← splitAt? (lineEnd ++ lineEnd) [] (rest.drop 2)
  let headers ← headers? (block ++ lineEnd ++ lineEnd)
  return (headers, rest)

/-- The parts after a boundary. `fuel` bounds their number; there are no more than bytes. -/
def partsFrom (boundary : Bytes) : (fuel : Nat) → Bytes → List Part × FormEnd
  | 0, _ => ([], .broken)
  | fuel + 1, bs =>
    if dashes.isPrefixOf bs then ([], .closed)
    else
      match begin? bs with
      | none => ([], .broken)
      | some (headers, rest) =>
        let part := partOf headers
        match splitAt? (lineEnd ++ dashes ++ boundary) [] rest with
        | none => ([], .brokenIn (part.name.getD ""))
        | some (content, rest) =>
          let (parts, ending) := partsFrom boundary fuel rest
          ({ part with content } :: parts, ending)

/-- **The parts of a form**, and how it ends. What stands before the first boundary and after the
last one does not matter. -/
def read (boundary : String) (body : Bytes) : List Part × FormEnd :=
  let boundary := Text.bytes boundary
  match splitAt? (dashes ++ boundary) [] body with
  | none => ([], .broken)
  | some (_, rest) => partsFrom boundary (rest.length + 1) rest

end Multipart

end JudgeDesk.Http
