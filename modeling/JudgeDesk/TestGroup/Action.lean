import JudgeDesk.Text.Quoted

/-!
# Actions on test groups

An action is what the operator asks for, with the value as it was typed.

* `GroupAction` — the eleven actions;
* `ofName?` — the action of a name in a request;
* `shown` — an action as error messages show it.
-/

namespace JudgeDesk

/-- **An action on a test group.** The values are raw form input. -/
inductive GroupAction where
  /-- put a new group after all others -/
  | addGroup
  /-- rename the group -/
  | setName (name : String)
  /-- set the number of its first test -/
  | setFirstTest (raw : String)
  /-- set the number of its last test -/
  | setLastTest (raw : String)
  /-- set how its tests add up -/
  | setScoringType (raw : String)
  /-- set what the participant sees -/
  | setFeedbackType (raw : String)
  /-- set what it is worth as a whole -/
  | setScore (raw : String)
  /-- set what each of its tests is worth -/
  | setTestScore (raw : String)
  /-- let it require the groups of a name -/
  | addRequired (name : String)
  /-- let it no longer require the groups of a name -/
  | removeRequired (name : String)
  /-- take the group away -/
  | removeGroup
  deriving DecidableEq, Repr

namespace GroupAction

/-- The action that a request names, with its value. -/
def ofName? (name value : String) : Option GroupAction :=
  match name with
  | "add_group" => some .addGroup
  | "name" => some (.setName value)
  | "first_test" => some (.setFirstTest value)
  | "last_test" => some (.setLastTest value)
  | "scoring_type" => some (.setScoringType value)
  | "feedback_type" => some (.setFeedbackType value)
  | "score" => some (.setScore value)
  | "test_score" => some (.setTestScore value)
  | "add_required" => some (.addRequired value)
  | "remove_required" => some (.removeRequired value)
  | "remove_group" => some .removeGroup
  | _ => none

/-- The word for an action in an error message. -/
def word : GroupAction → String
  | .addGroup => "AddGroup"
  | .setName _ => "SetName"
  | .setFirstTest _ => "SetFirstTest"
  | .setLastTest _ => "SetLastTest"
  | .setScoringType _ => "SetScoringType"
  | .setFeedbackType _ => "SetFeedbackType"
  | .setScore _ => "SetScore"
  | .setTestScore _ => "SetTestScore"
  | .addRequired _ => "AddRequired"
  | .removeRequired _ => "RemoveRequired"
  | .removeGroup => "RemoveGroup"

/-- The value of an action, if it takes one. -/
def value? : GroupAction → Option String
  | .addGroup => none
  | .setName v => some v
  | .setFirstTest v => some v
  | .setLastTest v => some v
  | .setScoringType v => some v
  | .setFeedbackType v => some v
  | .setScore v => some v
  | .setTestScore v => some v
  | .addRequired v => some v
  | .removeRequired v => some v
  | .removeGroup => none

/-- An action in an error message: its word, and its value in brackets. -/
def shown (a : GroupAction) : String :=
  match a.value? with
  | none => a.word
  | some v => a.word ++ "(" ++ Text.quoted v ++ ")"

end GroupAction

end JudgeDesk
