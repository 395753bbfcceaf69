import JudgeDesk.Problem.Basic

/-!
# Problems as documents

For each type its fields, and from them how it is read and how it is written. Absent values are left
out, and so is an empty list of requirements; the list of groups is always written.

* `TestGroup.decode`, `TestGroup.encode`;
* `Problem.decode`, `Problem.encode`;
* `ProblemSummary.decode`, `ProblemSummary.encode`.
-/

namespace JudgeDesk

open Decode (uint64 real64 text)
open Json (member member?)

namespace TestGroup

/-! ### Test groups -/

/-- The field of the name. -/
def nameField : Field String := .defaulting "name" text ""

/-- The field of the first test. -/
def firstTestField : Field UInt64 := .defaulting "first_test" uint64 0

/-- The field of the last test. -/
def lastTestField : Field UInt64 := .defaulting "last_test" uint64 0

/-- The field of the kind of scoring. -/
def scoringTypeField : Field ScoringType := .defaulting "scoring_type" Coded.decode .complete

/-- The field of the kind of feedback. -/
def feedbackTypeField : Field FeedbackType := .defaulting "feedback_type" Coded.decode .hidden

/-- The field of the score of the group. -/
def scoreField : Field (Option Binary64) := .optional "score" real64

/-- The field of the score of each test. -/
def testScoreField : Field (Option Binary64) := .optional "test_score" real64

/-- The field of the requirements. -/
def requiredField : Field (List String) := .listing "required_group_names" text

/-- The fields of a test group in their declared order. -/
def layout : List (String × Decoder Unit) :=
  [nameField.check, firstTestField.check, lastTestField.check, scoringTypeField.check,
    feedbackTypeField.check, scoreField.check, testScoreField.check, requiredField.check]

/-- A test group from a document. -/
def decode : Decoder TestGroup := fun v => do
  let given ← Decode.record layout v
  return {
    name := ← nameField.get given
    firstTest := ← firstTestField.get given
    lastTest := ← lastTestField.get given
    scoringType := ← scoringTypeField.get given
    feedbackType := ← feedbackTypeField.get given
    score := ← scoreField.get given
    testScore := ← testScoreField.get given
    required := ← requiredField.get given
  }

/-- A test group as a document. -/
def encode (g : TestGroup) : Json :=
  .ofMembers [
    member "name" (.string g.name),
    member "first_test" (.ofUInt64 g.firstTest),
    member "last_test" (.ofUInt64 g.lastTest),
    member "scoring_type" (Coded.encode g.scoringType),
    member "feedback_type" (Coded.encode g.feedbackType),
    member? "score" .ofReal g.score,
    member? "test_score" .ofReal g.testScore,
    if g.required.isEmpty then none
    else member "required_group_names" (.ofList .string g.required)]

end TestGroup

namespace Problem

/-! ### Problems -/

/-- The field of the id. -/
def idField : Field (Option UInt64) := .optional "id" uint64

/-- The field of the title. -/
def nameField : Field String := .defaulting "name" text ""

/-- The field of the family. -/
def problemTypeField : Field ProblemType := .defaulting "problem_type" Coded.decode .icpc

/-- The field of the time limit. -/
def timeLimitField : Field String := .defaulting "time_limit" text ""

/-- The field of the memory limit. -/
def memoryLimitField : Field String := .defaulting "memory_limit" text ""

/-- The field of the number of tests. -/
def testsNumberField : Field UInt64 := .defaulting "tests_number" uint64 0

/-- The field of the limit on the time on a clock. -/
def wallTimeLimitField : Field (Option String) := .optional "wall_time_limit" text

/-- The field of the limit on open files. -/
def maxOpenFilesField : Field (Option UInt64) := .optional "max_open_files" uint64

/-- The field of the limit on threads. -/
def maxThreadsField : Field (Option UInt64) := .optional "max_threads" uint64

/-- The field of the limit on output. -/
def maxOutputSizeField : Field (Option String) := .optional "max_output_size" text

/-- The field of the test groups. -/
def groupsField : Field (List TestGroup) := .listing "test_groups" TestGroup.decode

/-- The fields of a problem in their declared order. -/
def layout : List (String × Decoder Unit) :=
  [idField.check, nameField.check, problemTypeField.check, timeLimitField.check,
    memoryLimitField.check, testsNumberField.check, wallTimeLimitField.check,
    maxOpenFilesField.check, maxThreadsField.check, maxOutputSizeField.check, groupsField.check]

/-- A problem from a document. -/
def decode : Decoder Problem := fun v => do
  let given ← Decode.record layout v
  return {
    id := ← idField.get given
    name := ← nameField.get given
    problemType := ← problemTypeField.get given
    timeLimit := ← timeLimitField.get given
    memoryLimit := ← memoryLimitField.get given
    testsNumber := ← testsNumberField.get given
    wallTimeLimit := ← wallTimeLimitField.get given
    maxOpenFiles := ← maxOpenFilesField.get given
    maxThreads := ← maxThreadsField.get given
    maxOutputSize := ← maxOutputSizeField.get given
    groups := ← groupsField.get given
  }

/-- A problem as a document. -/
def encode (p : Problem) : Json :=
  .ofMembers [
    member? "id" .ofUInt64 p.id,
    member "name" (.string p.name),
    member "problem_type" (Coded.encode p.problemType),
    member "time_limit" (.string p.timeLimit),
    member "memory_limit" (.string p.memoryLimit),
    member "tests_number" (.ofUInt64 p.testsNumber),
    member? "wall_time_limit" .string p.wallTimeLimit,
    member? "max_open_files" .ofUInt64 p.maxOpenFiles,
    member? "max_threads" .ofUInt64 p.maxThreads,
    member? "max_output_size" .string p.maxOutputSize,
    member "test_groups" (.ofList TestGroup.encode p.groups)]

end Problem

namespace ProblemSummary

/-! ### Listings -/

/-- The field of the id. -/
def idField : Field UInt64 := .required "id" uint64

/-- The field of the title. -/
def nameField : Field String := .required "name" text

/-- The fields of a listed problem in their declared order. -/
def layout : List (String × Decoder Unit) := [idField.check, nameField.check]

/-- A listed problem from a document. -/
def decode : Decoder ProblemSummary := fun v => do
  let given ← Decode.record layout v
  return { id := ← idField.get given, name := ← nameField.get given }

/-- A listed problem as a document. -/
def encode (p : ProblemSummary) : Json :=
  .ofMembers [member "id" (.ofUInt64 p.id), member "name" (.string p.name)]

end ProblemSummary

end JudgeDesk
