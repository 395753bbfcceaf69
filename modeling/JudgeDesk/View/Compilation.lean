import JudgeDesk.View.Slot
import JudgeDesk.View.Fetch

/-!
# The compilation on the screen

The source and the output of the compiler are shown together and asked for together, so the pair has
a mark of its own that says whether it was asked for.

* `Compilation` — the pair;
* `CompilationIntent`, `Compilation.apply` — what can happen to it;
* `Compilation.reconcile` — asking for the pair when it is due.
-/

namespace JudgeDesk

/-- **The artifacts of the compilation** on the screen. -/
structure Compilation where
  /-- whether the pair was asked for -/
  requested : Bool := false
  /-- the slots -/
  set : SlotSet CompilationArtifact := {}

/-- What can happen to the pair. -/
inductive CompilationIntent where
  /-- show it or hide it -/
  | toggle
  /-- ask for it -/
  | request
  /-- something came of a request -/
  | fulfill (artifact : CompilationArtifact) (outcome : Outcome)

namespace Compilation

/-- **The pair** after an intent. -/
def apply (c : Compilation) : CompilationIntent → Compilation
  | .toggle => { c with set := c.set.toggle }
  | .request => { requested := true, set := c.set.requestAll Artifact.all }
  | .fulfill artifact outcome => { c with set := c.set.fulfill artifact outcome }

/-- Whether the pair has to be asked for: the submission was compiled, and the pair is shown and was
not asked for. -/
def isDue (c : Compilation) (s : Submission) : Bool :=
  s.compilationResult.isSome && c.set.shown && !c.requested

/-- **Reconciling**: the pair is asked for if it is due. -/
def reconcile (c : Compilation) (s : Submission) (generation : UInt64) :
    Compilation × List Fetch :=
  if c.isDue s then
    (c.apply .request, Artifact.all.map fun k => Fetch.order s generation (.compilation k))
  else (c, [])

/-- The pair as a document. -/
def encode (c : Compilation) : Json :=
  .object [
    ("requested", .bool c.requested),
    ("show", .bool c.set.shown),
    ("slots", c.set.encodeSlots)]

end Compilation

end JudgeDesk
