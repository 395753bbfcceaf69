import JudgeDesk.Desk.Request
import JudgeDesk.Judge.Call
import JudgeDesk.Sessions.Basic
import JudgeDesk.Settings.Basic

/-!
# The desk

The desk keeps the open editors and viewers and serves requests, one after the other. What it does
on a request may take calls to the judge; the downloads that a viewer orders run on their own and
are reported back when they end.

* `Desk` — its settings and what is open;
* `Moment` — when a request comes;
* `Desk.serve` — a request is served;
* `Desk.breakOff` — it cannot be, and whoever sent it hears nothing;
* `Desk.finish` — a download ended;
* `Desk.sweep` — idle sessions are closed.
-/

namespace JudgeDesk

/-- **The desk.** -/
structure Desk where
  /-- how it works -/
  settings : ConsoleSettings
  /-- the open editors -/
  editors : Sessions Editor := {}
  /-- the open viewers -/
  viewers : Sessions Viewer := {}

/-- **When a request comes**, and what chance gives it. -/
structure Moment where
  /-- the time of the day -/
  now : Timestamp
  /-- the time that sessions are measured by -/
  uptime : Nat
  /-- the id of the session that the request may open -/
  freshId : SessionId

/-- **A download** that a viewer ordered. -/
structure Download where
  /-- the viewer -/
  viewer : SessionId
  /-- the order -/
  order : Fetch
  deriving DecidableEq, Repr

/-- What comes of a request. -/
structure Served where
  /-- the answer, or an error in its place; nothing at all if the request broke off -/
  answer : Option (Except Error Answer)
  /-- the desk afterwards -/
  desk : Desk
  /-- the downloads that were ordered -/
  downloads : List Download := []

namespace Desk

/-- For how long notifications are shown. With settings for which there is no such span, and at
times from which it leads beyond the calendar (`Timestamp.IsTellable`), a desk that runs breaks off
where it would raise a notification. This is left out where something is loaded or saved: the span
counts as no time at all there, and what is said of a desk with such settings is not how it runs. -/
def ttl (d : Desk) : Duration := d.settings.notificationTtl?.getD 0

/-- A request that fails and leaves the desk as it is. -/
def refuse (d : Desk) (e : Error) : Exchange Served :=
  .done { answer := some (.error e), desk := d }

/-- A request that breaks off and leaves the desk as it is. -/
def breakOff (d : Desk) : Exchange Served := .done { answer := none, desk := d }

/-- The answer to a call, passed on. -/
def pass (d : Desk) (c : Call) (answer : c.Reply → Answer) : Exchange Served := do
  let result ← Exchange.call c
  return { answer := some (result.map answer), desk := d }

/-! ### Editors -/

/-- An editor is shown. -/
def showEditor (d : Desk) (m : Moment) (isNew : Bool) (id : SessionId) (e : Editor) : Served :=
  { answer := some (.ok (.editor isNew id (e.snapshot m.now))), desk := d }

/-- An editor is kept under the fresh id. -/
def keepEditor (d : Desk) (m : Moment) (e : Editor) : Served :=
  let d := { d with editors := d.editors.insert m.freshId e m.uptime }
  d.showEditor m true m.freshId e

/-- **Opening an editor.** The problem that it is for is loaded first. -/
def openEditor (d : Desk) (m : Moment) : Option UInt64 → Exchange Served
  | none => .done (d.keepEditor m Editor.blank)
  | some id => do
    let result ← Exchange.call (.getProblem id)
    return d.keepEditor m ((Editor.loading id).loaded result d.ttl m.now)

/-- What is done with an open editor, which is used thereby. -/
def withEditor (d : Desk) (m : Moment) (id : SessionId) (f : Desk → Editor → Exchange Served) :
    Exchange Served :=
  match d.editors.get id m.uptime with
  | .ok (e, editors) => f { d with editors } e
  | .error err => d.refuse err

/-- An open editor is replaced by what it has become. -/
def setEditor (d : Desk) (m : Moment) (id : SessionId) (e : Editor) : Served :=
  let d := { d with editors := d.editors.set id e }
  d.showEditor m false id e

/-- **Editing.** The names in an intent are looked up before the editor is. -/
def edit (d : Desk) (m : Moment) (id : SessionId) (request : EditorRequest) : Exchange Served :=
  match request.resolve with
  | .error err => d.refuse err
  | .ok intent => d.withEditor m id fun d e =>
    match e.apply intent with
    | .ok e => .done (d.setEditor m id e)
    | .error err => d.refuse err

/-- **Sending a problem to the judge**: a problem with an id is modified, one without is created.
The result has the id of a new problem. -/
def send (p : Problem) : Exchange (Except Error (Option UInt64)) :=
  match p.id with
  | some id => do
    let result ← Exchange.call (.modifyProblem id p)
    return result.map fun _ => none
  | none => do
    let result ← Exchange.call (.createProblem p)
    return result.bind fun created =>
      match created.id with
      | some id => .ok (some id)
      | none => .error (.fetchFailed .unassignedId)

/-- **Saving.** What the judge says is shown in the editor. -/
def save (d : Desk) (m : Moment) (id : SessionId) : Exchange Served :=
  d.withEditor m id fun d e =>
    match e.ensureLoaded with
    | .error err => d.refuse err
    | .ok _ => do
      let result ← send e.problem
      return d.setEditor m id (e.saved result d.ttl m.now)

/-- Closing an editor. -/
def closeEditor (d : Desk) (id : SessionId) : Exchange Served :=
  match d.editors.remove id with
  | .ok (_, editors) => .done { answer := some (.ok .closed), desk := { d with editors } }
  | .error err => d.refuse err

/-! ### Viewers -/

/-- A viewer is shown, and its new orders are passed on. -/
def showViewer (d : Desk) (m : Moment) (isNew : Bool) (id : SessionId) (v : Viewer)
    (orders : List Fetch) : Served :=
  { answer := some (.ok (.viewer isNew id (v.snapshot m.now)))
    desk := d
    downloads := orders.map fun order => { viewer := id, order } }

/-- **Opening a viewer.** It takes a span for its notifications and a queue for its messages, and
then its submission is loaded. -/
def openViewer (d : Desk) (m : Moment) (submission : UInt64) : Exchange Served :=
  match d.settings.notificationTtl?, d.settings.viewerCapacity? with
  | some ttl, some _ => do
    let result ← Exchange.call (.getSubmission submission)
    let (v, orders) := Viewer.loaded { submissionId := submission } result ttl m.now
    let d := { d with viewers := d.viewers.insert m.freshId v m.uptime }
    return d.showViewer m true m.freshId v orders
  | _, _ => d.breakOff

/-- What is done with an open viewer, which is used thereby. -/
def withViewer (d : Desk) (m : Moment) (id : SessionId) (f : Desk → Viewer → Exchange Served) :
    Exchange Served :=
  match d.viewers.get id m.uptime with
  | .ok (v, viewers) => f { d with viewers } v
  | .error err => d.refuse err

/-- An open viewer is replaced by what it has become. -/
def setViewer (d : Desk) (m : Moment) (id : SessionId) (v : Viewer) (orders : List Fetch) :
    Served :=
  let d := { d with viewers := d.viewers.set id v }
  d.showViewer m false id v orders

/-- **Viewing.** The slots of the view are shown or hidden, or the submission is loaded again. -/
def view (d : Desk) (m : Moment) (id : SessionId) (request : ViewerRequest) : Exchange Served :=
  d.withViewer m id fun d v =>
    match request.intent? with
    | some intent =>
      match v.perform intent with
      | .ok (v, orders) => .done (d.setViewer m id v orders)
      | .error err => d.refuse err
    | none => do
      let result ← Exchange.call (.getSubmission v.submissionId)
      let (v, orders) := v.loaded result d.ttl m.now
      return d.setViewer m id v orders

/-- Closing a viewer. -/
def closeViewer (d : Desk) (id : SessionId) : Exchange Served :=
  match d.viewers.remove id with
  | .ok (_, viewers) => .done { answer := some (.ok .closed), desk := { d with viewers } }
  | .error err => d.refuse err

/-! ### Everything else -/

/-- A listing is refused if its numbers are out of range. -/
def ifInRange (d : Desk) (p : Paging) (f : Exchange Served) : Exchange Served :=
  match p.violations with
  | [] => f
  | numbers => d.refuse (.invalidInput (.outOfRange numbers))

/-- **Serving a request.** -/
def serve (d : Desk) (m : Moment) : Request → Exchange Served
  | .health =>
    .done { answer := some (.ok (.healthy d.editors.count d.viewers.count)), desk := d }
  | .listProblems p =>
    d.ifInRange p <|
      d.pass (.listProblems (p.count.getD d.settings.problemsPageSize) p.pageNumber)
        fun entries => .problems entries p.pageNumber
  | .openEditor problem => d.openEditor m problem
  | .showEditor id => d.withEditor m id fun d e => .done (d.showEditor m false id e)
  | .edit id request => d.edit m id request
  | .save id => d.save m id
  | .closeEditor id => d.closeEditor id
  | .listSubmissions f =>
    d.ifInRange f.paging <|
      d.pass (.listSubmissions f d.settings.submissionsPageSize)
        fun entries => .submissions entries f.paging.pageNumber
  | .submit form =>
    match form.solution with
    | .ok solution => d.pass (.submit solution) .submitted
    | .error err => d.refuse err
  | .openViewer submission => d.openViewer m submission
  | .showViewer id => d.withViewer m id fun d v => .done (d.showViewer m false id v [])
  | .view id request => d.view m id request
  | .closeViewer id => d.closeViewer id
  | .masterStatus => d.pass .masterStatus .masterStatus
  | .resetInvokerCache => d.pass .resetInvokerCache fun _ => .cacheReset

/-- **A download ended.** A viewer that is not open any more does not hear of it. -/
def finish (d : Desk) (download : Download) (outcome : Outcome) : Desk × List Download :=
  match d.viewers.find? download.viewer with
  | none => (d, [])
  | some v =>
    let (v, orders) := v.finished download.order outcome
    ({ d with viewers := d.viewers.set download.viewer v },
      orders.map fun order => { viewer := download.viewer, order })

/-- **Sweeping**: editors and viewers that were idle for too long are closed, and their number is
told. -/
def sweep (d : Desk) (uptime : Nat) : Desk × Nat :=
  let (editors, e) := d.editors.sweep uptime d.settings.maxIdle
  let (viewers, v) := d.viewers.sweep uptime d.settings.maxIdle
  ({ d with editors, viewers }, e + v)

end Desk

end JudgeDesk
