import JudgeDesk.Notification
import JudgeDesk.Problem.Document
import JudgeDesk.Problem.Edit

/-!
# Editors

An editor holds a problem while the operator works on it. It is opened for a new problem, or on one
of the judge's that has to be loaded first, and what is done in it reaches the judge only when it
is saved.

* `Editor`, `Editor.blank`, `Editor.loading` — an editor and how it is opened;
* `Editor.loaded`, `Editor.apply`, `Editor.saved` — what happens to it;
* `Editor.snapshot` — what is shown of it.
-/

namespace JudgeDesk

/-- **An editor.** -/
structure Editor where
  /-- the problem as it is now -/
  problem : Problem := {}
  /-- the problem that it was opened on; none if it was opened for a new one -/
  source : Option UInt64 := none
  /-- whether there is a problem to work on -/
  isLoaded : Bool := false
  /-- how the last load or save went -/
  notification : Option Notification := none
  deriving DecidableEq, Repr

/-- What is shown of an editor. -/
structure EditorSnapshot where
  /-- whether there is a problem to work on -/
  isLoaded : Bool
  /-- the problem as it is now -/
  problem : Problem
  /-- what each test group may still require -/
  candidates : List (List String)
  /-- how the last load or save went, while that is shown -/
  notification : Option Notification
  deriving DecidableEq, Repr

namespace Editor

/-- An editor for a new problem. -/
def blank : Editor := { isLoaded := true }

/-- An editor that waits for a problem of the judge's. -/
def loading (id : UInt64) : Editor := { source := some id }

/-- **Loading.** The problem that came replaces what was there; a failure is only shown. -/
def loaded (e : Editor) (result : Except Error Problem) (ttl : Duration) (now : Timestamp) :
    Editor :=
  match result with
  | .ok p =>
    match e.problem.apply (.replace p) with
    | .ok problem => { e with problem, isLoaded := true, notification := none }
    | .error _ => e
  | .error err =>
    { e with notification := some (Notification.failure err.displayMessage ttl now) }

/-- Nothing can be done in an editor that has no problem. -/
def ensureLoaded (e : Editor) : Except Error Unit :=
  if e.isLoaded then .ok () else .error (.invalidInput .notLoaded)

/-- **Editing.** An intent that is refused changes nothing. -/
def apply (e : Editor) (intent : ProblemIntent) : Except Error Editor := do
  e.ensureLoaded
  let problem ← e.problem.apply intent
  return { e with problem }

/-- What is said after a save that went well. -/
def savedMessage : String := "Saved changes"

/-- **Saving.** The judge's answer to a save has the id of the problem if it was new; a failure is
only shown. -/
def saved (e : Editor) (result : Except Error (Option UInt64)) (ttl : Duration)
    (now : Timestamp) : Editor :=
  match result with
  | .ok id =>
    { e with
      problem := match id with
        | some id => e.problem.withId id
        | none => e.problem
      notification := some (Notification.success savedMessage ttl now) }
  | .error err =>
    { e with notification := some (Notification.failure err.displayMessage ttl now) }

/-- **What is shown** at some time. -/
def snapshot (e : Editor) (now : Timestamp) : EditorSnapshot :=
  { isLoaded := e.isLoaded
    problem := e.problem
    candidates := e.problem.requirementCandidates
    notification := e.notification.filter (·.isActive now) }

end Editor

/-- The members of a snapshot in a document. -/
def EditorSnapshot.members (s : EditorSnapshot) : List (Option (String × Json)) :=
  [Json.member "loaded" (.bool s.isLoaded),
    Json.member "problem" s.problem.encode,
    Json.member "requirement_candidates" (.ofList (.ofList .string) s.candidates),
    Json.member? "notification" Notification.encode s.notification]

end JudgeDesk
