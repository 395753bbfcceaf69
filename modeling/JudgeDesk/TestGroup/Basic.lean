import JudgeDesk.Coded
import JudgeDesk.Binary64.Basic

/-!
# Test groups

The tests of a problem may be split into groups, each of which is scored as a whole. A group may
require that other groups have passed, and it names them: names, not positions, tie the groups
together.

* `ScoringType`, `FeedbackType` — how a group is scored, and what a participant sees of it;
* `TestGroup` — one group. The groups of a problem are a list, and their order counts.
-/

namespace JudgeDesk

/-- How the tests of a group add up to its score. -/
inductive ScoringType where
  /-- all tests have to pass to earn the score of the group -/
  | complete
  /-- each test that passes earns the score of a test -/
  | eachTest
  /-- the score is the least one over the tests -/
  | minScore
  deriving DecidableEq, Repr

/-- How much of the outcome of a group is shown to the participant. -/
inductive FeedbackType where
  /-- nothing -/
  | hidden
  /-- the points only -/
  | points
  /-- the first failure only -/
  | icpc
  /-- the verdict of every test -/
  | complete
  /-- everything there is -/
  | full
  deriving DecidableEq, Repr

instance : Coded ScoringType where
  kind := "scoring type"
  code
    | .complete => 1
    | .eachTest => 2
    | .minScore => 3
  ofCode?
    | 1 => some .complete
    | 2 => some .eachTest
    | 3 => some .minScore
    | _ => none
  ofCode?_code x := by cases x <;> rfl
  code_lt x := by cases x <;> decide

instance : Coded FeedbackType where
  kind := "feedback type"
  code
    | .hidden => 1
    | .points => 2
    | .icpc => 3
    | .complete => 4
    | .full => 5
  ofCode?
    | 1 => some .hidden
    | 2 => some .points
    | 3 => some .icpc
    | 4 => some .complete
    | 5 => some .full
    | _ => none
  ofCode?_code x := by cases x <;> rfl
  code_lt x := by cases x <;> decide

/-- **A test group.** -/
structure TestGroup where
  /-- the name by which other groups require this one; empty for a group that none can require -/
  name : String := ""
  /-- the number of the first test -/
  firstTest : UInt64 := 0
  /-- the number of the last test -/
  lastTest : UInt64 := 0
  /-- how the tests add up -/
  scoringType : ScoringType := .complete
  /-- what the participant sees -/
  feedbackType : FeedbackType := .hidden
  /-- what the group is worth as a whole -/
  score : Option Binary64 := none
  /-- what each of its tests is worth -/
  testScore : Option Binary64 := none
  /-- the names of the groups that have to pass before this one counts -/
  required : List String := []
  deriving DecidableEq, Repr

namespace TestGroup

/-- Whether a group requires the groups of some name. -/
def requires (g : TestGroup) (name : String) : Bool := name ∈ g.required

/-- Whether the groups after this one may require it: it has a name, and it passes or fails as a
whole. -/
def isEligible (g : TestGroup) : Bool := g.name ≠ "" && g.scoringType = .complete

/-- A group that is worth nothing yet. -/
def withoutScores (g : TestGroup) : TestGroup := { g with score := none, testScore := none }

end TestGroup

end JudgeDesk
