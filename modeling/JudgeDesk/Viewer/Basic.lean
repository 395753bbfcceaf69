import JudgeDesk.Notification
import JudgeDesk.Artifact.SourceLanguage
import JudgeDesk.View.Basic
import JudgeDesk.Viewer.Request

/-!
# Viewers

A viewer shows one submission. After everything that happens to its view it orders the downloads
that are due; each order comes back as a result some time later, and until then it is outstanding.

* `Viewer` — a view with the orders that are outstanding;
* `Viewer.perform` — something happens to the view, and downloads are ordered;
* `Viewer.loaded`, `Viewer.finished` — a submission came, or a download ended;
* `Viewer.snapshot` — what is shown.
-/

namespace JudgeDesk

/-- **A viewer.** -/
structure Viewer where
  /-- the submission that it was opened on -/
  submissionId : UInt64
  /-- what it shows -/
  view : View := {}
  /-- the orders that have no result yet, in the order in which they were given -/
  outstanding : List Fetch := []
  /-- why the last load failed, if it did -/
  notification : Option Notification := none

/-- What is shown of a viewer. -/
structure ViewerSnapshot where
  /-- the submission that it was opened on -/
  submissionId : UInt64
  /-- what it shows -/
  view : View
  /-- the language of the source, once that is there -/
  sourceLanguage : Option SourceLanguage
  /-- why the last load failed, while that is shown -/
  notification : Option Notification

namespace Viewer

/-- **Something happens to the view.** If it can, one pass of reconciliation follows, and what it
orders is outstanding from then on. The new orders are told. -/
def perform (v : Viewer) (intent : ViewIntent) : Except Error (Viewer × List Fetch) := do
  let view ← v.view.apply intent
  let (view, orders) := view.reconcile
  return ({ v with view, outstanding := v.outstanding ++ orders }, orders)

/-- **Loading.** The submission that came replaces what was there; a failure is only shown. -/
def loaded (v : Viewer) (result : Except Error Submission) (ttl : Duration) (now : Timestamp) :
    Viewer × List Fetch :=
  match result with
  | .ok s =>
    let v := { v with notification := none }
    match v.perform (.load s) with
    | .ok after => after
    | .error _ => (v, [])
  | .error err =>
    ({ v with notification := some (Notification.failure err.displayMessage ttl now) }, [])

/-- **A download ended.** Its order is not outstanding any more; a result that has no place in the
view is dropped. -/
def finished (v : Viewer) (order : Fetch) (outcome : Outcome) : Viewer × List Fetch :=
  let v := { v with outstanding := v.outstanding.erase order }
  match v.perform (.fetched (order.complete outcome)) with
  | .ok after => after
  | .error _ => (v, [])

/-- The language of the source, once that is there. -/
def sourceLanguage (v : View) : Option SourceLanguage := do
  let s ← v.submission
  let source ← (v.compilation.set.slot .source).data
  return SourceLanguage.ofFile (source.filename.getD "") s.language

/-- **What is shown** at some time. -/
def snapshot (v : Viewer) (now : Timestamp) : ViewerSnapshot :=
  { submissionId := v.submissionId
    view := v.view
    sourceLanguage := sourceLanguage v.view
    notification := v.notification.filter (·.isActive now) }

end Viewer

/-- What an intent for a viewer does to its view; loading is not up to the view. -/
def ViewerRequest.intent? : ViewerRequest → Option ViewIntent
  | .toggleCompilation => some (.compilation .toggle)
  | .toggleTest n => some (.test (.toggle n))
  | .reload => none

/-- The members of a snapshot in a document. -/
def ViewerSnapshot.members (s : ViewerSnapshot) : List (Option (String × Json)) :=
  [Json.member "submission_id" (.ofUInt64 s.submissionId)] ++ s.view.members.map some ++
  [Json.member? "source_language" (fun l => .string l.word) s.sourceLanguage,
    Json.member? "notification" Notification.encode s.notification]

end JudgeDesk
