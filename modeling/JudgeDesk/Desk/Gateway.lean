import JudgeDesk.Desk.Basic
import JudgeDesk.Desk.Route

/-!
# The desk over HTTP

* `Answer.response` — an answer as a response;
* `Error.response` — an error as a response;
* `Desk.handle` — a request from its coming in to its response.
-/

namespace JudgeDesk

/-- The version of the program. -/
def version : String := "0.1.0"

/-- A response with a document. -/
def respond (status : Nat) (value : Json) : Http.Response := { status, body := .document value }

/-- The status of an answer that shows a session. -/
def sessionStatus (isNew : Bool) : Nat := if isNew then 201 else 200

/-- A snapshot of a session with its id. -/
def sessionDocument (id : SessionId) (members : List (Option (String × Json))) : Json :=
  .ofMembers (Json.member "session_id" (.string id.text) :: members)

/-- **An answer as a response.** -/
def Answer.response : Answer → Http.Response
  | .healthy editors viewers =>
    respond 200 (.object [
      ("status", .string "healthy"),
      ("version", .string version),
      ("open_editors", .ofNat editors),
      ("open_viewers", .ofNat viewers)])
  | .problems entries page =>
    respond 200 (.object [
      ("problems", .ofList ProblemSummary.encode entries),
      ("page", .ofNat page.toNat)])
  | .editor isNew id s => respond (sessionStatus isNew) (sessionDocument id s.members)
  | .submissions entries page =>
    respond 200 (.object [
      ("submissions", .ofList SubmissionSummary.encode entries),
      ("page", .ofNat page.toNat)])
  | .submitted id =>
    respond 202 (.object [
      ("id", .ofUInt64 id),
      ("message", .string "Submission received and queued for judging")])
  | .viewer isNew id s => respond (sessionStatus isNew) (sessionDocument id s.members)
  | .closed => { status := 204 }
  | .masterStatus status => respond 200 status
  | .cacheReset => respond 200 (.object [("message", .string "Invoker cache reset")])

/-- **An error as a response.** -/
def Error.response (e : Error) : Http.Response := respond e.status e.encode

/-- The response to a request that was served. -/
def Served.response (s : Served) : Http.Response :=
  match s.answer with
  | some (.ok answer) => answer.response
  | some (.error e) => e.response
  | none => .missing

/-- What comes of a request over HTTP. -/
structure Handled where
  /-- the response -/
  response : Http.Response
  /-- the desk afterwards -/
  desk : Desk
  /-- the downloads that were ordered -/
  downloads : List Download := []

namespace Desk

/-- A request that the desk never sees. -/
def turnAway (d : Desk) (response : Http.Response) : Exchange Handled :=
  .done { response, desk := d }

/-- A request after it was read. -/
def handleReading (d : Desk) (m : Moment) : Reading → Exchange Handled
  | .understood request => do
    let served ← d.serve m request
    return { response := served.response, desk := served.desk, downloads := served.downloads }
  | .failed e => d.turnAway e.response
  | .rejected status => d.turnAway { status, body := .note }
  | .noResource => d.turnAway { status := 404 }
  | .noMethod => d.turnAway { status := 405 }

/-- **Handling a request.** Whoever asks for headers only gets no body. -/
def handle (d : Desk) (m : Moment) (r : Http.Request) : Exchange Handled := do
  let handled ← d.handleReading m (Reading.of r)
  if r.method = "HEAD" then
    return { handled with response := { handled.response with body := .empty } }
  return handled

end Desk

end JudgeDesk
