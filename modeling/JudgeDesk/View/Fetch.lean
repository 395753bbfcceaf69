import JudgeDesk.Artifact.Basic

/-!
# Downloads

* `Fetch` — an order to download an artifact for one slot of a view;
* `FetchResult` — what came of it, with all that tells whether the slot is still there;
* `Fetch.complete` — the result of an order.
-/

namespace JudgeDesk

/-- **An order** to download an artifact. -/
structure Fetch where
  /-- the submission that is viewed -/
  submissionId : UInt64
  /-- how often the view had been loaded when it gave the order -/
  generation : UInt64
  /-- the slot that the artifact is for -/
  destination : Address
  /-- what to download -/
  target : Target
  deriving DecidableEq, Repr

/-- **The result** of an order. -/
structure FetchResult where
  /-- the submission that was viewed -/
  submissionId : UInt64
  /-- how often the view had been loaded when it gave the order -/
  generation : UInt64
  /-- the slot that the artifact is for -/
  destination : Address
  /-- what came of it -/
  outcome : Outcome

namespace Fetch

/-- The order for an artifact of a submission. -/
def order (s : Submission) (generation : UInt64) (destination : Address) : Fetch :=
  { submissionId := s.id, generation, destination, target := destination.target s }

/-- **The result** of an order that ended in some way. -/
def complete (f : Fetch) (outcome : Outcome) : FetchResult :=
  { submissionId := f.submissionId, generation := f.generation, destination := f.destination,
    outcome }

/-- An order as a document. -/
def encode (f : Fetch) : Json :=
  .object [
    ("submission_id", .ofUInt64 f.submissionId),
    ("generation", .ofUInt64 f.generation),
    ("destination", f.destination.encode),
    ("target", f.target.encode)]

end Fetch

end JudgeDesk
