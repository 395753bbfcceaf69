import JudgeDesk.View.Compilation
import JudgeDesk.View.Tests
import JudgeDesk.Submission.Document

/-!
# Views

A view is all that the screen shows of one submission. Loading a submission, even the same one
again, empties every slot and begins a new generation; the result of a download that an earlier
generation ordered is dropped.

* `View` — the submission and its slots;
* `ViewIntent`, `View.apply` — what can happen to a view, or why it cannot;
* `View.reconcile` — the downloads that are due, and the view that has ordered them.
-/

namespace JudgeDesk

/-- **A view.** -/
structure View where
  /-- the submission; none before the first load -/
  submission : Option Submission := none
  /-- how often a submission was loaded -/
  generation : UInt64 := 0
  /-- the artifacts of the compilation -/
  compilation : Compilation := {}
  /-- the artifacts of the tests -/
  tests : Tests := {}

/-- What can happen to a view. -/
inductive ViewIntent where
  /-- a submission came -/
  | load (submission : Submission)
  /-- something happens to the artifacts of the compilation -/
  | compilation (intent : CompilationIntent)
  /-- something happens to the artifacts of the tests -/
  | test (intent : TestIntent)
  /-- a download ended -/
  | fetched (result : FetchResult)

namespace View

/-- **Loading**: everything starts over, in a new generation. -/
def load (v : View) (s : Submission) : View :=
  { submission := some s
    generation := v.generation + 1
    compilation := {}
    tests := Tests.fresh s.testsCount }

/-- Whether a result belongs to what the view shows now. -/
def accepts (v : View) (r : FetchResult) : Bool :=
  v.submission.map (·.id) = some r.submissionId && r.generation = v.generation

/-- A result is put into its slot. -/
def deliver (v : View) (r : FetchResult) : Except Error View :=
  match r.destination with
  | .compilation artifact =>
    .ok { v with compilation := v.compilation.apply (.fulfill artifact r.outcome) }
  | .test n artifact => do
    let tests ← v.tests.apply (.fulfill n artifact r.outcome)
    return { v with tests }

/-- **The view** after an intent. -/
def apply (v : View) : ViewIntent → Except Error View
  | .load s => .ok (v.load s)
  | .compilation intent => .ok { v with compilation := v.compilation.apply intent }
  | .test intent => do
    let tests ← v.tests.apply intent
    return { v with tests }
  | .fetched r => if v.accepts r then v.deliver r else .ok v

/-- **Reconciling.** One pass orders the artifacts of the compilation if they are due, and those of
one test. Before the first load nothing is due. -/
def reconcile (v : View) : View × List Fetch :=
  match v.submission with
  | none => (v, [])
  | some s =>
    let (compilation, first) := v.compilation.reconcile s v.generation
    let (tests, second) := v.tests.reconcile s v.generation
    ({ v with compilation, tests }, first ++ second)

/-- The members of a view in a document; the generation is nobody's business. -/
def members (v : View) : List (String × Json) :=
  [("submission", (v.submission.map Submission.encode).getD .null),
    ("compilation", v.compilation.encode),
    ("tests", v.tests.encode)]

/-- A view as a document. -/
def encode (v : View) : Json := .object v.members

end View

end JudgeDesk
