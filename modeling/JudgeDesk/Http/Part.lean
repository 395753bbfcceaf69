import JudgeDesk.Charset.Label

/-!
# Parts of a form

A form that may hold files is sent as a sequence of parts.

* `Part` — a field of a form, or a file;
* `Part.text` — what a field holds, as a text.
-/

namespace JudgeDesk.Http

/-- **A part** of a form. -/
structure Part where
  /-- the name of the field -/
  name : Option String
  /-- the name of the file, if the part is one -/
  filename : Option String := none
  /-- the label of the charset of its text -/
  charset : Option String := none
  /-- what it holds -/
  content : Bytes
  deriving DecidableEq, Repr

/-- **The text** in a part. Without a label that names a charset it is in UTF-8. -/
def Part.text (p : Part) : String :=
  ((p.charset.bind Charset.ofLabel?).getD .utf8).text p.content

end JudgeDesk.Http
