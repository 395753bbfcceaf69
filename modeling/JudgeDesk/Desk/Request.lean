import JudgeDesk.Editor.Request
import JudgeDesk.Editor.Basic
import JudgeDesk.Viewer.Request
import JudgeDesk.Viewer.Basic
import JudgeDesk.Submission.Filter
import JudgeDesk.Submission.Form

/-!
# Requests to the desk and answers

* `Request` — all that can be asked of the desk;
* `Answer` — all that it can answer, errors apart.
-/

namespace JudgeDesk

/-- **A request.** -/
inductive Request where
  /-- how is the desk? -/
  | health
  /-- list problems -/
  | listProblems (paging : Paging)
  /-- open an editor, on a problem or for a new one -/
  | openEditor (problem : Option UInt64)
  /-- show an editor -/
  | showEditor (id : SessionId)
  /-- do something in an editor -/
  | edit (id : SessionId) (intent : EditorRequest)
  /-- save what is in an editor -/
  | save (id : SessionId)
  /-- close an editor -/
  | closeEditor (id : SessionId)
  /-- list submissions -/
  | listSubmissions (filter : Filter)
  /-- send a solution -/
  | submit (form : SolutionForm)
  /-- open a viewer on a submission -/
  | openViewer (submission : UInt64)
  /-- show a viewer -/
  | showViewer (id : SessionId)
  /-- do something in a viewer -/
  | view (id : SessionId) (intent : ViewerRequest)
  /-- close a viewer -/
  | closeViewer (id : SessionId)
  /-- how is the judge? -/
  | masterStatus
  /-- let the invokers forget what they have kept -/
  | resetInvokerCache

/-- **An answer.** -/
inductive Answer where
  /-- the desk is well, with so many editors and viewers open -/
  | healthy (editors viewers : Nat)
  /-- a page of problems -/
  | problems (entries : List ProblemSummary) (page : UInt32)
  /-- an editor, which was opened just now or not -/
  | editor (isNew : Bool) (id : SessionId) (snapshot : EditorSnapshot)
  /-- a page of submissions -/
  | submissions (entries : List SubmissionSummary) (page : UInt32)
  /-- a solution was taken, under this id -/
  | submitted (id : UInt64)
  /-- a viewer, which was opened just now or not -/
  | viewer (isNew : Bool) (id : SessionId) (snapshot : ViewerSnapshot)
  /-- a session was closed -/
  | closed
  /-- what the judge says of itself -/
  | masterStatus (status : Json)
  /-- the invokers were told -/
  | cacheReset

end JudgeDesk
