import JudgeDesk.TestGroup.Requirements
import JudgeDesk.Binary64.Decimal
import JudgeDesk.Error

/-!
# Editing test groups

* `target` — the position that an action acts on;
* `perform` — what an action does there;
* `apply` — an action as a whole, or why it is refused.

A value that does not read as what it should be leaves the group as it was, except for the scores:
one that does not read as a number clears them both.
-/

namespace JudgeDesk.TestGroup

/-- A whole number typed into a form. -/
def typedNumber? (raw : String) : Option UInt64 := Text.uint64? (Text.trim raw)

/-- A score typed into a form. -/
def typedScore? (raw : String) : Option Binary64 :=
  if raw = "" then none else Binary64.ofText? (Text.trim raw)

/-- **Target.** A new group lands behind all others; any other action needs the position of a group
that is there. -/
def target (groups : List TestGroup) (index : Option Nat) (action : GroupAction) :
    Except Error Nat :=
  match action, index with
  | .addGroup, _ => .ok groups.length
  | _, some i => if i < groups.length then .ok i else .error (.invalidIndex i groups.length)
  | action, none => .error (.invalidIntent (.missingIndex action))

/-- Whether another group than the one at a position carries a name. -/
def isTaken (groups : List TestGroup) (index : Nat) (name : String) : Bool :=
  name ≠ "" && (groups.eraseIdx index).any (·.name = name)

/-- **Renaming.** Nobody requires the old name any more. A name that another group carries already
is not taken over. -/
def rename (groups : List TestGroup) (index : Nat) (name : String) : List TestGroup :=
  match groups[index]? with
  | none => groups
  | some g =>
    if g.name = name ∨ isTaken groups index name then groups
    else (purge index g.name groups).modify index ({ · with name })

/-- **Changing the scoring.** What is not scored as a whole cannot be required, and scores of
another kind of scoring mean nothing. -/
def rescore (groups : List TestGroup) (index : Nat) (kind : ScoringType) : List TestGroup :=
  match groups[index]? with
  | none => groups
  | some g =>
    let purged := if kind = .complete then groups else purge index g.name groups
    let cleared (g : TestGroup) := if g.scoringType = kind then g else g.withoutScores
    purged.modify index fun g => { cleared g with scoringType := kind }

/-- **Removing a group**, and every requirement on it. -/
def remove (groups : List TestGroup) (index : Nat) : List TestGroup :=
  match groups[index]? with
  | none => groups
  | some g => (purge index g.name groups).eraseIdx index

/-- **What an action does** to the group at a position. -/
def perform (groups : List TestGroup) (index : Nat) : GroupAction → List TestGroup
  | .addGroup => groups ++ [{}]
  | .setName name => rename groups index name
  | .setFirstTest raw =>
    match typedNumber? raw with
    | some n => groups.modify index ({ · with firstTest := n })
    | none => groups
  | .setLastTest raw =>
    match typedNumber? raw with
    | some n => groups.modify index ({ · with lastTest := n })
    | none => groups
  | .setScoringType raw =>
    match Coded.ofText? raw with
    | some kind => rescore groups index kind
    | none => groups
  | .setFeedbackType raw =>
    match Coded.ofText? raw with
    | some kind => groups.modify index ({ · with feedbackType := kind })
    | none => groups
  | .setScore raw => groups.modify index ({ ·.withoutScores with score := typedScore? raw })
  | .setTestScore raw => groups.modify index ({ ·.withoutScores with testScore := typedScore? raw })
  | .addRequired name => groups.modify index fun g => { g with required := g.required ++ [name] }
  | .removeRequired name =>
    groups.modify index fun g => { g with required := g.required.erase name }
  | .removeGroup => remove groups index

/-- Whether an action is allowed at a position: a new requirement has to be a candidate. -/
def guard (groups : List TestGroup) (index : Nat) : GroupAction → Except Error Unit
  | .addRequired name =>
    if name ∈ candidates groups index then .ok ()
    else .error (.invalidIntent (.ineligible name index))
  | _ => .ok ()

/-- **Applying an action.** Whatever it is, all requirements are in order of rank afterwards. -/
def apply (groups : List TestGroup) (index : Option Nat) (action : GroupAction) :
    Except Error (List TestGroup) := do
  let index ← target groups index action
  guard groups index action
  return sorted (perform groups index action)

end JudgeDesk.TestGroup
