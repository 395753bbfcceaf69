import JudgeDesk.Desk.Gateway
import JudgeDesk.Judge.Script

/-!
# Rehearsals

In a rehearsal the desk works with a scripted judge and a clock that stands still unless it is
moved. Downloads end between two steps, in the order in which they were ordered, except for those
whose paths are held: these wait until they are let go.

* `Rehearsal` — the desk with all that surrounds it;
* `request`, `hold`, `release`, `advance`, `sweep` — the steps;
* `settle` — the downloads end that need not wait.
-/

namespace JudgeDesk

/-- A download that was started, with what will come of it. -/
structure Started where
  /-- the download -/
  download : Download
  /-- what will come of it -/
  outcome : Outcome

/-- **A rehearsal.** -/
structure Rehearsal where
  /-- the desk -/
  desk : Desk
  /-- what the judge will say -/
  script : Script := {}
  /-- the calls that were made in this step, the last one in front -/
  calls : List Call := []
  /-- the paths whose downloads wait -/
  held : List String := []
  /-- the downloads that wait, the oldest one in front -/
  waiting : List Started := []
  /-- the time of the day -/
  now : Timestamp := 0
  /-- the time that sessions are measured by -/
  uptime : Nat := 0
  /-- how many sessions were opened -/
  opened : Nat := 0
  /-- the id of each session, in the order in which they are opened -/
  idOf : Nat → SessionId

namespace Rehearsal

/-- The judge of a rehearsal: its script, and the calls that were made so far. -/
def judge (s : Script × List Call) (c : Call) : (Script × List Call) × c.Answer :=
  let (script, answer) := s.1.answer c
  ((script, c :: s.2), answer)

/-- A rehearsal after an exchange with the judge, and the value of the exchange. -/
def perform (r : Rehearsal) (x : Exchange α) : Rehearsal × α :=
  let ((script, calls), value) := x.run judge (r.script, r.calls)
  ({ r with script, calls }, value)

/-- A download is started: its call is made, and what comes of it is fixed. -/
def start (r : Rehearsal) (download : Download) : Rehearsal × Started :=
  let (r, result) := r.perform (Exchange.call (.fetchResource download.order.target))
  (r, { download, outcome := result.mapError Error.displayMessage })

/-- Downloads are started in order. -/
def startAll (r : Rehearsal) : List Download → Rehearsal × List Started
  | [] => (r, [])
  | download :: rest =>
    let (r, first) := r.start download
    let (r, others) := r.startAll rest
    (r, first :: others)

/-- Whether a download waits. -/
def isHeld (r : Rehearsal) (s : Started) : Bool :=
  r.held.contains s.download.order.target.path

/-- Downloads end in order; what the viewers order thereupon is told. -/
def finishAll (r : Rehearsal) : List Started → Rehearsal × List Download
  | [] => (r, [])
  | s :: rest =>
    let (desk, more) := r.desk.finish s.download s.outcome
    let (r, others) := finishAll { r with desk } rest
    (r, more ++ others)

/-- One round of downloads: they are started, and those that need not wait end. -/
def round (r : Rehearsal) (downloads : List Download) : Rehearsal × List Download :=
  let (r, started) := r.startAll downloads
  let r := { r with waiting := r.waiting ++ started.filter r.isHeld }
  r.finishAll (started.filter fun s => !r.isHeld s)

/-- Rounds of downloads until nothing is ordered any more. -/
def rounds : (fuel : Nat) → Rehearsal → List Download → Rehearsal
  | 0, r, _ => r
  | _ + 1, r, [] => r
  | fuel + 1, r, downloads =>
    let (r, more) := r.round downloads
    rounds fuel r more

/-- **Settling.** Each round with new orders asks for a test or a compilation that nobody had asked
for, so there are no more rounds than these. -/
def settle (r : Rehearsal) (downloads : List Download) : Rehearsal :=
  let wanted := r.desk.viewers.entries.foldl (fun n e => n + e.session.view.tests.count + 2) 0
  rounds (wanted + 1) r downloads

/-- A step begins: no call was made in it yet. -/
def begin (r : Rehearsal) : Rehearsal := { r with calls := [] }

/-- The circumstances of a request. -/
def moment (r : Rehearsal) : Moment :=
  { now := r.now, uptime := r.uptime, freshId := r.idOf r.opened }

/-- **A request.** The response shows how things were before the downloads end that the request
ordered. -/
def request (r : Rehearsal) (req : Http.Request) : Rehearsal × Http.Response :=
  let (r, handled) := r.begin.perform (r.desk.handle r.moment req)
  let opened := if handled.response.status = 201 then r.opened + 1 else r.opened
  (settle { r with desk := handled.desk, opened } handled.downloads, handled.response)

/-- **Holding**: from now on downloads of these paths wait, and of no others. -/
def hold (r : Rehearsal) (paths : List String) : Rehearsal :=
  { r.begin with held := paths }

/-- **Letting go**: the oldest download of a path that waits ends, if there is one. -/
def release (r : Rehearsal) (path : String) : Rehearsal × Bool :=
  let r := r.begin
  match r.waiting.findIdx? fun s => s.download.order.target.path = path with
  | none => (r, false)
  | some i =>
    let freed := (r.waiting[i]?).toList
    let (r, more) := { r with waiting := r.waiting.eraseIdx i }.finishAll freed
    (r.settle more, true)

/-- **Moving the clock** by which sessions are measured. -/
def advance (r : Rehearsal) (milliseconds : Nat) : Rehearsal :=
  { r.begin with uptime := r.uptime + milliseconds }

/-- **Sweeping** the desk; the number of sessions that were closed is told. -/
def sweep (r : Rehearsal) : Rehearsal × Nat :=
  let (desk, closed) := r.desk.sweep r.uptime
  ({ r.begin with desk }, closed)

end Rehearsal

end JudgeDesk
