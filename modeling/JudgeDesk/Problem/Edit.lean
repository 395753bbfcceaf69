import JudgeDesk.Problem.Basic
import JudgeDesk.TestGroup.Edit

/-!
# Editing a problem

A problem changes by intents only. An intent swaps in another problem, sets a scalar field to a
value as it was typed, or acts on the test groups.

* `ProblemField` — the scalar fields, each with its rule for what was typed;
* `ProblemIntent` — the intents;
* `Problem.apply` — a problem after an intent, or why the intent is refused;
* `Problem.withId` — a problem after the judge has given it an id.
-/

namespace JudgeDesk

/-- The fields of a problem that hold a single value. -/
inductive ProblemField where
  /-- the title -/
  | name
  /-- the family -/
  | problemType
  /-- the time limit -/
  | timeLimit
  /-- the memory limit -/
  | memoryLimit
  /-- how many tests there are -/
  | testsNumber
  /-- the limit on the time on a clock -/
  | wallTimeLimit
  /-- the limit on open files -/
  | maxOpenFiles
  /-- the limit on threads -/
  | maxThreads
  /-- the limit on output -/
  | maxOutputSize
  deriving DecidableEq, Repr

/-- The field that a request names. -/
def ProblemField.ofName? : String → Option ProblemField
  | "name" => some .name
  | "problem_type" => some .problemType
  | "time_limit" => some .timeLimit
  | "memory_limit" => some .memoryLimit
  | "tests_number" => some .testsNumber
  | "wall_time_limit" => some .wallTimeLimit
  | "max_open_files" => some .maxOpenFiles
  | "max_threads" => some .maxThreads
  | "max_output_size" => some .maxOutputSize
  | _ => none

/-- The word for a field in a report. -/
def ProblemField.word : ProblemField → String
  | .name => "Name"
  | .problemType => "ProblemType"
  | .timeLimit => "TimeLimit"
  | .memoryLimit => "MemoryLimit"
  | .testsNumber => "TestsNumber"
  | .wallTimeLimit => "WallTimeLimit"
  | .maxOpenFiles => "MaxOpenFiles"
  | .maxThreads => "MaxThreads"
  | .maxOutputSize => "MaxOutputSize"

/-- **An intent** of the operator. -/
inductive ProblemIntent where
  /-- take another problem in place of this one -/
  | replace (problem : Problem)
  /-- set a field to what was typed -/
  | field (field : ProblemField) (value : String)
  /-- act on the test groups -/
  | group (index : Option Nat) (action : GroupAction)
  deriving DecidableEq, Repr

namespace Problem

/-- A text that may be absent: an empty one takes it away. -/
def typedText (value : String) : Option String := if value = "" then none else some value

/-- A number that may be absent: an empty text takes it away, and what does not read as a number
leaves it as it was. -/
def typedLimit (old : Option UInt64) (value : String) : Option UInt64 :=
  if value = "" then none else (Text.uint64? (Text.trim value)).orElse fun _ => old

/-- **Setting a field.** Texts are taken as they are; what does not read as a number or a code
leaves the field as it was. -/
def setField (p : Problem) (field : ProblemField) (value : String) : Problem :=
  match field with
  | .name => { p with name := value }
  | .timeLimit => { p with timeLimit := value }
  | .memoryLimit => { p with memoryLimit := value }
  | .problemType => { p with problemType := (Coded.ofText? value).getD p.problemType }
  | .testsNumber =>
    { p with testsNumber := (Text.uint64? (Text.trim value)).getD p.testsNumber }
  | .wallTimeLimit => { p with wallTimeLimit := typedText value }
  | .maxOutputSize => { p with maxOutputSize := typedText value }
  | .maxOpenFiles => { p with maxOpenFiles := typedLimit p.maxOpenFiles value }
  | .maxThreads => { p with maxThreads := typedLimit p.maxThreads value }

/-- **Applying an intent.** A problem that is swapped in loses every requirement that cannot hold;
an intent that is refused changes nothing. -/
def apply (p : Problem) : ProblemIntent → Except Error Problem
  | .replace problem => .ok { problem with groups := TestGroup.normalize problem.groups }
  | .field field value => .ok (p.setField field value)
  | .group index action => do
    let groups ← TestGroup.apply p.groups index action
    return { p with groups }

/-- A problem after the judge has given it an id. -/
def withId (p : Problem) (id : UInt64) : Problem := { p with id := some id }

/-- What each group may still require. -/
def requirementCandidates (p : Problem) : List (List String) := TestGroup.allCandidates p.groups

end Problem

end JudgeDesk
