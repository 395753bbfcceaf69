import JudgeDesk.View.Slot
import JudgeDesk.View.Fetch
import JudgeDesk.Error

/-!
# The tests on the screen

Each test of a submission has a set of five slots. Tests are counted from one.

* `TestSlots`, `Tests` — the slots of one test and of all;
* `TestIntent`, `Tests.apply` — what can happen to them, or why it cannot;
* `Tests.reconcile` — asking for the artifacts of one test that is shown.
-/

namespace JudgeDesk

/-- The slots of one test. -/
abbrev TestSlots := SlotSet TestArtifact

/-- **The slots of all tests**, in order. -/
structure Tests where
  /-- the slots of each test -/
  sets : List TestSlots := []

/-- What can happen to the slots of tests. -/
inductive TestIntent where
  /-- start over with so many tests -/
  | reset (count : Nat)
  /-- show the slots of a test or hide them -/
  | toggle (test : Nat)
  /-- ask for an artifact of a test -/
  | request (test : Nat) (artifact : TestArtifact)
  /-- something came of a request -/
  | fulfill (test : Nat) (artifact : TestArtifact) (outcome : Outcome)

namespace Tests

/-- So many tests, nothing of them shown or asked for. -/
def fresh (count : Nat) : Tests := ⟨List.replicate count {}⟩

/-- The number of tests. -/
def count (ts : Tests) : Nat := ts.sets.length

/-- **Position** of a test in the list, if there is such a test. -/
def position (ts : Tests) (test : Nat) : Except Error Nat :=
  if 1 ≤ test ∧ test ≤ ts.count then .ok (test - 1) else .error (.invalidTest test ts.count)

/-- The slots of a test. -/
def test (ts : Tests) (test : Nat) : Except Error TestSlots := do
  let i ← ts.position test
  return (ts.sets[i]?).getD {}

/-- All tests after a change to one of them. -/
def update (ts : Tests) (test : Nat) (f : TestSlots → TestSlots) : Except Error Tests := do
  let i ← ts.position test
  return ⟨ts.sets.modify i f⟩

/-- **The tests** after an intent. -/
def apply (ts : Tests) : TestIntent → Except Error Tests
  | .reset count => .ok (fresh count)
  | .toggle test => ts.update test SlotSet.toggle
  | .request test artifact => ts.update test (·.request artifact)
  | .fulfill test artifact outcome => ts.update test (·.fulfill artifact outcome)

/-- Whether a set has pending artifacts. -/
def isPending (s : TestSlots) : Bool := !s.pending.isEmpty

/-- **Reconciling**: the pending artifacts of the first test that has any are asked for. -/
def reconcile (ts : Tests) (s : Submission) (generation : UInt64) : Tests × List Fetch :=
  match ts.sets.findIdx? isPending with
  | none => (ts, [])
  | some i =>
    let keys := ((ts.sets[i]?).map SlotSet.pending).getD []
    (⟨ts.sets.modify i (·.requestAll keys)⟩,
      keys.map fun k => Fetch.order s generation (.test (i + 1) k))

/-- The tests as a document. -/
def encode (ts : Tests) : Json := .ofList SlotSet.encode ts.sets

end Tests

end JudgeDesk
