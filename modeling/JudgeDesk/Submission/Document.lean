import JudgeDesk.Submission.Basic

/-!
# Submissions as documents

For each type its fields, and from them how it is read and how it is written. Absent values are left
out; the list of test results is always written.

* `TestResult.decode`, `GroupResult.decode`, `CompilationResult.decode` and their `encode`;
* `Submission.decode`, `Submission.encode`;
* `SubmissionSummary.decode`, `SubmissionSummary.encode`.
-/

namespace JudgeDesk

open Decode (uint64 int32 real64 text truth)
open Json (member member?)

/-- A signed number of thirty-two bits in a document. -/
def Json.ofInt32 (n : Int32) : Json := .int n.toInt

namespace TestResult

/-! ### Results of tests -/

/-- The field of the number of the test. -/
def testNumberField : Field UInt64 := .required "test_number" uint64

/-- The field of the verdict. -/
def verdictField : Field Verdict := .required "verdict" Verdict.decode

/-- The field of the points. -/
def pointsField : Field (Option Binary64) := .optional "points" real64

/-- The field of the time. -/
def timeField : Field (Option String) := .optional "time" text

/-- The field of the memory. -/
def memoryField : Field (Option String) := .optional "memory" text

/-- The field of the time on a clock. -/
def wallTimeField : Field (Option String) := .optional "wall_time" text

/-- The field of the exit code. -/
def exitCodeField : Field (Option Int32) := .optional "exit_code" int32

/-- The field of the judge's own failure. -/
def errorField : Field (Option String) := .optional "error" text

/-- The fields of the result of a test in their declared order. -/
def layout : List (String × Decoder Unit) :=
  [testNumberField.check, verdictField.check, pointsField.check, timeField.check,
    memoryField.check, wallTimeField.check, exitCodeField.check, errorField.check]

/-- The result of a test from a document. -/
def decode : Decoder TestResult := fun v => do
  let given ← Decode.record layout v
  return {
    testNumber := ← testNumberField.get given
    verdict := ← verdictField.get given
    points := ← pointsField.get given
    time := ← timeField.get given
    memory := ← memoryField.get given
    wallTime := ← wallTimeField.get given
    exitCode := ← exitCodeField.get given
    error := ← errorField.get given
  }

/-- The result of a test as a document. -/
def encode (r : TestResult) : Json :=
  .ofMembers [
    member "test_number" (.ofUInt64 r.testNumber),
    member "verdict" r.verdict.encode,
    member? "points" .ofReal r.points,
    member? "time" .string r.time,
    member? "memory" .string r.memory,
    member? "wall_time" .string r.wallTime,
    member? "exit_code" .ofInt32 r.exitCode,
    member? "error" .string r.error]

end TestResult

namespace GroupResult

/-! ### Results of test groups -/

/-- The field of the name of the group. -/
def groupNameField : Field String := .required "group_name" text

/-- The field of the points. -/
def pointsField : Field Binary64 := .defaulting "points" real64 (Binary64.zero false)

/-- The field of whether the group passed. -/
def passedField : Field Bool := .defaulting "passed" truth false

/-- The fields of the result of a group in their declared order. -/
def layout : List (String × Decoder Unit) :=
  [groupNameField.check, pointsField.check, passedField.check]

/-- The result of a group from a document. -/
def decode : Decoder GroupResult := fun v => do
  let given ← Decode.record layout v
  return {
    groupName := ← groupNameField.get given
    points := ← pointsField.get given
    passed := ← passedField.get given
  }

/-- The result of a group as a document. -/
def encode (r : GroupResult) : Json :=
  .ofMembers [
    member "group_name" (.string r.groupName),
    member "points" (.ofReal r.points),
    member "passed" (.bool r.passed)]

end GroupResult

namespace CompilationResult

/-! ### Results of compilations -/

/-- The field of the verdict. -/
def verdictField : Field Verdict := .required "verdict" Verdict.decode

/-- The field of the time. -/
def timeField : Field (Option String) := .optional "time" text

/-- The field of the memory. -/
def memoryField : Field (Option String) := .optional "memory" text

/-- The field of the time on a clock. -/
def wallTimeField : Field (Option String) := .optional "wall_time" text

/-- The field of the exit code. -/
def exitCodeField : Field (Option Int32) := .optional "exit_code" int32

/-- The fields of the result of a compilation in their declared order. -/
def layout : List (String × Decoder Unit) :=
  [verdictField.check, timeField.check, memoryField.check, wallTimeField.check,
    exitCodeField.check]

/-- The result of a compilation from a document. -/
def decode : Decoder CompilationResult := fun v => do
  let given ← Decode.record layout v
  return {
    verdict := ← verdictField.get given
    time := ← timeField.get given
    memory := ← memoryField.get given
    wallTime := ← wallTimeField.get given
    exitCode := ← exitCodeField.get given
  }

/-- The result of a compilation as a document. -/
def encode (r : CompilationResult) : Json :=
  .ofMembers [
    member "verdict" r.verdict.encode,
    member? "time" .string r.time,
    member? "memory" .string r.memory,
    member? "wall_time" .string r.wallTime,
    member? "exit_code" .ofInt32 r.exitCode]

end CompilationResult

/-! ### Submissions -/

namespace SubmissionSummary

/-- The field of the id. -/
def idField : Field UInt64 := .required "id" uint64

/-- The field of the problem. -/
def problemIdField : Field UInt64 := .required "problem_id" uint64

/-- The field of the language. -/
def languageField : Field String := .required "language" text

/-- The field of the points. -/
def scoreField : Field Binary64 := .defaulting "score" real64 (Binary64.zero false)

/-- The field of the verdict. -/
def verdictField : Field Verdict := .required "verdict" Verdict.decode

/-- The field of the test that is being run. -/
def currentTestField : Field (Option UInt64) := .optional "current_test" uint64

/-- The fields of a listed submission in their declared order. -/
def layout : List (String × Decoder Unit) :=
  [idField.check, problemIdField.check, languageField.check, scoreField.check,
    verdictField.check, currentTestField.check]

/-- A listed submission from a document. -/
def decode : Decoder SubmissionSummary := fun v => do
  let given ← Decode.record layout v
  return {
    id := ← idField.get given
    problemId := ← problemIdField.get given
    language := ← languageField.get given
    score := ← scoreField.get given
    verdict := ← verdictField.get given
    currentTest := ← currentTestField.get given
  }

/-- A listed submission as a document. -/
def encode (s : SubmissionSummary) : Json :=
  .ofMembers [
    member "id" (.ofUInt64 s.id),
    member "problem_id" (.ofUInt64 s.problemId),
    member "language" (.string s.language),
    member "score" (.ofReal s.score),
    member "verdict" s.verdict.encode,
    member? "current_test" .ofUInt64 s.currentTest]

end SubmissionSummary

namespace Submission

open SubmissionSummary (idField problemIdField languageField scoreField verdictField
  currentTestField)

/-- The field of the results of tests. -/
def testResultsField : Field (List TestResult) := .listing "test_results" TestResult.decode

/-- The field of the results of test groups. -/
def groupResultsField : Field (Option (List GroupResult)) :=
  .optional "group_results" (Decode.list GroupResult.decode)

/-- The field of the result of the compilation. -/
def compilationResultField : Field (Option CompilationResult) :=
  .optional "compilation_result" CompilationResult.decode

/-- The fields of a submission in their declared order: those of a listed one, and its results. -/
def layout : List (String × Decoder Unit) :=
  SubmissionSummary.layout ++
    [testResultsField.check, groupResultsField.check, compilationResultField.check]

/-- A submission from a document. -/
def decode : Decoder Submission := fun v => do
  let given ← Decode.record layout v
  return {
    id := ← idField.get given
    problemId := ← problemIdField.get given
    language := ← languageField.get given
    score := ← scoreField.get given
    verdict := ← verdictField.get given
    currentTest := ← currentTestField.get given
    testResults := ← testResultsField.get given
    groupResults := ← groupResultsField.get given
    compilationResult := ← compilationResultField.get given
  }

/-- A submission as a document. -/
def encode (s : Submission) : Json :=
  .ofMembers [
    member "id" (.ofUInt64 s.id),
    member "problem_id" (.ofUInt64 s.problemId),
    member "language" (.string s.language),
    member "score" (.ofReal s.score),
    member "verdict" s.verdict.encode,
    member? "current_test" .ofUInt64 s.currentTest,
    member "test_results" (.ofList TestResult.encode s.testResults),
    member? "group_results" (.ofList GroupResult.encode) s.groupResults,
    member? "compilation_result" CompilationResult.encode s.compilationResult]

end Submission

end JudgeDesk
