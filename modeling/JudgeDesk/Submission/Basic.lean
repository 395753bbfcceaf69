import JudgeDesk.Submission.Verdict
import JudgeDesk.Binary64.Basic

/-!
# Submissions

A submission is a solution that somebody sent, with all that the judge knows about it.

* `TestResult`, `GroupResult`, `CompilationResult` — how its parts went;
* `Submission` — the whole;
* `SubmissionSummary` — a submission in a listing.
-/

namespace JudgeDesk

/-- How one test went. -/
structure TestResult where
  /-- the number of the test -/
  testNumber : UInt64
  /-- the verdict -/
  verdict : Verdict
  /-- the points it earned -/
  points : Option Binary64 := none
  /-- the time it took -/
  time : Option String := none
  /-- the memory it took -/
  memory : Option String := none
  /-- the time that passed on a clock -/
  wallTime : Option String := none
  /-- the exit code of the run -/
  exitCode : Option Int32 := none
  /-- what went wrong on the side of the judge -/
  error : Option String := none
  deriving DecidableEq, Repr

/-- How one test group went. -/
structure GroupResult where
  /-- the name of the group -/
  groupName : String
  /-- the points it earned -/
  points : Binary64
  /-- whether it passed -/
  passed : Bool
  deriving DecidableEq, Repr

/-- How the compilation went. -/
structure CompilationResult where
  /-- the verdict -/
  verdict : Verdict
  /-- the time it took -/
  time : Option String := none
  /-- the memory it took -/
  memory : Option String := none
  /-- the time that passed on a clock -/
  wallTime : Option String := none
  /-- the exit code of the compiler -/
  exitCode : Option Int32 := none
  deriving DecidableEq, Repr

/-- **A submission.** -/
structure Submission where
  /-- the judge's number for it -/
  id : UInt64
  /-- the problem that it solves -/
  problemId : UInt64
  /-- the language it is written in -/
  language : String
  /-- the points it earned -/
  score : Binary64
  /-- the verdict -/
  verdict : Verdict
  /-- the test that is being run -/
  currentTest : Option UInt64 := none
  /-- how its tests went, as far as they did -/
  testResults : List TestResult := []
  /-- how its test groups went -/
  groupResults : Option (List GroupResult) := none
  /-- how its compilation went; none if there was none -/
  compilationResult : Option CompilationResult := none
  deriving DecidableEq, Repr

/-- The number of tests that a submission has results for. -/
def Submission.testsCount (s : Submission) : Nat := s.testResults.length

/-- A submission in a listing. -/
structure SubmissionSummary where
  /-- the judge's number for it -/
  id : UInt64
  /-- the problem that it solves -/
  problemId : UInt64
  /-- the language it is written in -/
  language : String
  /-- the points it earned -/
  score : Binary64
  /-- the verdict -/
  verdict : Verdict
  /-- the test that is being run -/
  currentTest : Option UInt64 := none
  deriving DecidableEq, Repr

end JudgeDesk
