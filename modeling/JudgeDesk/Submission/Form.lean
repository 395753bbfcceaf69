import JudgeDesk.Http.Part
import JudgeDesk.Text.Blank
import JudgeDesk.Error

/-!
# Sending a solution

A solution is sent with a form: the problem, the language, and a file or a text.

* `Solution` — a solution as the judge gets it;
* `SolutionForm`, `SolutionForm.ofParts` — the form, as filled by its parts in order;
* `SolutionForm.solution` — the solution, or what the form lacks.
-/

namespace JudgeDesk

/-- **A solution** to be judged. -/
structure Solution where
  /-- the problem that it solves -/
  problemId : UInt64
  /-- the language it is written in -/
  language : String
  /-- the name of its file -/
  filename : String
  /-- its source -/
  content : Bytes
  deriving DecidableEq, Repr

/-- The name of a file for a language. -/
def Solution.filenameFor (language : String) : String := "solution." ++ language

/-- A solution that was typed; its file is named for its language. -/
def Solution.ofText (problemId : UInt64) (language text : String) : Solution :=
  { problemId, language, filename := filenameFor language, content := Text.bytes text }

/-- **The form** of a solution, as far as it was filled. -/
structure SolutionForm where
  /-- the id of the problem, as it was typed -/
  problemId : Option String := none
  /-- the language -/
  language : Option String := none
  /-- the file, with its name -/
  file : Option (String × Bytes) := none
  /-- the text -/
  text : Option String := none
  deriving DecidableEq, Repr

namespace SolutionForm

/-- The name of the part with the problem. -/
def problemIdName : String := "problem_id"

/-- The name of the part with the language. -/
def languageName : String := "language"

/-- The name of the part with the file. -/
def fileName : String := "solution"

/-- The name of the part with the text. -/
def textName : String := "solution_text"

/-- The form after one more part. A later part counts more than an earlier one of its name, and
parts of other names do not matter. -/
def add (f : SolutionForm) (p : Http.Part) : SolutionForm :=
  let name := p.name.getD ""
  if name = fileName then { f with file := some (p.filename.getD "", p.content) }
  else if name = problemIdName then { f with problemId := some (p.text) }
  else if name = languageName then { f with language := some (p.text) }
  else if name = textName then { f with text := some (p.text) }
  else f

/-- **The form** that a sequence of parts fills. -/
def ofParts (parts : List Http.Part) : SolutionForm := parts.foldl add {}

/-- The id of the problem: a number, with blanks around it allowed. -/
def checkedProblemId (f : SolutionForm) : Except Error UInt64 :=
  let typed := Text.trim (f.problemId.getD "")
  if typed = "" then .error (.invalidInput .missingProblemId)
  else
    match Text.uint64? typed with
    | some id => .ok id
    | none => .error (.invalidInput .malformedProblemId)

/-- The language, which is not blank. -/
def checkedLanguage (f : SolutionForm) : Except Error String :=
  match f.language with
  | some language =>
    if Text.isBlankText language then .error (.invalidInput .missingLanguage) else .ok language
  | none => .error (.invalidInput .missingLanguage)

/-- The name and the content of the source: the file unless it is empty, and otherwise the text
unless that is empty. -/
def source? (f : SolutionForm) (language : String) : Option (String × Bytes) :=
  match f.file.filter fun file => !file.2.isEmpty, f.text.filter (· ≠ "") with
  | some (name, content), _ =>
    some (if name = "" then Solution.filenameFor language else name, content)
  | none, some text => some (Solution.filenameFor language, Text.bytes text)
  | none, none => none

/-- **The solution** of a form, or the first thing that it lacks: the problem, the language, the
source. -/
def solution (f : SolutionForm) : Except Error Solution := do
  let problemId ← f.checkedProblemId
  let language ← f.checkedLanguage
  match f.source? language with
  | some (filename, content) => return { problemId, language, filename, content }
  | none => .error (.invalidInput .missingSource)

end SolutionForm

end JudgeDesk
