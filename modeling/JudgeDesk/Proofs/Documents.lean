import JudgeDesk.Proofs.Problem.Document
import JudgeDesk.Proofs.Submission.Document

/-!
# Documents in normal form

A document can say the same thing in several ways: as an object in any order or as an array, with
members that nobody knows, and with null for what is absent or for an empty list. What it says, read
and written again, is the document in its normal form: that is read as the same value, and stays as
it is when it is read and written once more.

* `DocumentKind` — the kinds of documents that the judge sends;
* `DocumentKind.normalize` — a document, read and written again;
* `DocumentKind.decode_encode_of_decode` — what was read is read again;
* `DocumentKind.normalize_normalize` — a document in its normal form stays as it is.
-/

namespace JudgeDesk

/-- **A kind of documents** that the judge sends, or of their parts. -/
inductive DocumentKind where
  /-- a problem -/
  | problem
  /-- a test group of a problem -/
  | testGroup
  /-- a problem in a listing -/
  | problemSummary
  /-- a submission -/
  | submission
  /-- how one test of a submission went -/
  | testResult
  /-- how one test group went -/
  | groupResult
  /-- how the compilation went -/
  | compilationResult
  /-- a submission in a listing -/
  | submissionSummary
  /-- a file -/
  | resource

namespace DocumentKind

/-- What a document of a kind is read as. -/
abbrev Value : DocumentKind → Type
  | problem => Problem
  | testGroup => TestGroup
  | problemSummary => ProblemSummary
  | submission => Submission
  | testResult => TestResult
  | groupResult => GroupResult
  | compilationResult => CompilationResult
  | submissionSummary => SubmissionSummary
  | resource => Resource

/-- How a document of a kind is read. -/
def decode : (k : DocumentKind) → Decoder k.Value
  | problem => Problem.decode
  | testGroup => TestGroup.decode
  | problemSummary => ProblemSummary.decode
  | submission => Submission.decode
  | testResult => TestResult.decode
  | groupResult => GroupResult.decode
  | compilationResult => CompilationResult.decode
  | submissionSummary => SubmissionSummary.decode
  | resource => Resource.decode

/-- How a document of a kind is written. -/
def encode : (k : DocumentKind) → k.Value → Json
  | problem => Problem.encode
  | testGroup => TestGroup.encode
  | problemSummary => ProblemSummary.encode
  | submission => Submission.encode
  | testResult => TestResult.encode
  | groupResult => GroupResult.encode
  | compilationResult => CompilationResult.encode
  | submissionSummary => SubmissionSummary.encode
  | resource => Resource.encode

/-- **A document, read and written again.** -/
def normalize (k : DocumentKind) (v : Json) : Except Refusal Json := (k.decode v).map k.encode

/-- **What was read from a document with finite numbers is read again** once it is written. -/
theorem decode_encode_of_decode (k : DocumentKind) {v : Json} (hv : v.isFinite = true) {x : k.Value}
    (h : k.decode v = .ok x) : k.decode (k.encode x) = .ok x := by
  cases k with
  | problem => exact (Problem.decode_encode_eq_self_iff x).mpr (Problem.finiteScores_of_decode h hv)
  | testGroup =>
    have hwritten : TestGroup.asWritten x = x :=
      TestGroup.asWritten_eq_self_iff.mpr (TestGroup.hasFiniteScores_of_decode h hv)
    exact (TestGroup.decode_encode x).trans (congrArg Except.ok hwritten)
  | problemSummary => exact ProblemSummary.decode_encode x
  | submission => exact Submission.decode_encode (Submission.finitePoints_of_decode h hv)
  | testResult => exact TestResult.decode_encode (TestResult.yields_finitePoints hv h)
  | groupResult => exact GroupResult.decode_encode (GroupResult.yields_finitePoints hv h)
  | compilationResult => exact CompilationResult.decode_encode x
  | submissionSummary =>
    exact SubmissionSummary.decode_encode (SubmissionSummary.isFinite_of_decode h hv)
  | resource => exact Resource.decode_encode x

/-- **A document in its normal form stays as it is.** Whatever is read from a document with finite
numbers, in whichever form that was, is read again from what is written for it, and then the same
is written for it. -/
theorem normalize_normalize (k : DocumentKind) {v : Json} (hv : v.isFinite = true) {x : k.Value}
    (h : k.decode v = .ok x) :
    k.decode (k.encode x) = .ok x ∧ k.normalize v = .ok (k.encode x) ∧
      k.normalize (k.encode x) = .ok (k.encode x) := by
  have hagain : k.decode (k.encode x) = .ok x := k.decode_encode_of_decode hv h
  refine ⟨hagain, ?_, ?_⟩
  · rw [normalize, h]
    rfl
  · rw [normalize, hagain]
    rfl

/-- A submission as an array, with a verdict as an object, null for the list of its tests, and test
groups in either form. -/
def oddSubmission : Json :=
  .array [.int 9, .int 2, .string "g++", .int 50, .object [("PT", .null)], .null, .null,
    .array [
      .object [("passed", .bool true), ("rank", .array [.null]), ("group_name", .string "A")],
      .array [.string "B", .real (Binary64.ofInt 20)]]]

/-- The submission that it is. -/
def partlySolved : Submission where
  id := 9
  problemId := 2
  language := "g++"
  score := Binary64.ofInt 50
  verdict := .partialSolution
  groupResults := some [
    { groupName := "A", points := Binary64.zero false, passed := true },
    { groupName := "B", points := Binary64.ofInt 20, passed := false }]

theorem normalize_oddSubmission :
    oddSubmission.isFinite = true ∧ Submission.decode oddSubmission = .ok partlySolved ∧
      Submission.decode partlySolved.encode = .ok partlySolved ∧
      submission.normalize partlySolved.encode = .ok partlySolved.encode := by
  have hfinite : oddSubmission.isFinite = true := by decide +kernel
  have hdecode : Submission.decode oddSubmission = .ok partlySolved := by decide +kernel
  obtain ⟨hagain, -, hnormal⟩ := normalize_normalize .submission hfinite hdecode
  exact ⟨hfinite, hdecode, hagain, hnormal⟩

end DocumentKind

end JudgeDesk
