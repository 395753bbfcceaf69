import JudgeDesk.Judge.Call
import JudgeDesk.Judge.Envelope
import JudgeDesk.Http.Location
import JudgeDesk.Json.Reader
import JudgeDesk.Json.Tagged
import JudgeDesk.Problem.Document
import JudgeDesk.Submission.Document

/-!
# Messages to the judge

The judge is reached over HTTP. Each call is one message, and the reply is a document in an
envelope. The status of a reply does not matter, as the judge reports its failures inside the
envelope; it is only mentioned when the reply cannot be read.

* `Message`, `Call.message` — the message of a call;
* `Message.location` — where it goes;
* `Call.ofEnvelope` — what an envelope says of a call;
* `Call.ofReply` — what a reply says of a call.
-/

namespace JudgeDesk

/-- What a message carries. -/
inductive MessageBody where
  /-- nothing -/
  | empty
  /-- a document -/
  | document (value : Json)
  /-- a form -/
  | form (parts : List Http.Part)

/-- **A message.** -/
structure Message where
  /-- the method -/
  method : String
  /-- the path, after the location of the judge -/
  path : String
  /-- the query -/
  query : Http.Query := []
  /-- what it carries -/
  body : MessageBody := .empty

/-- **Where a message goes**: to its path after the location of the judge. -/
def Message.location (m : Message) (base : String) : Http.Location :=
  (Http.Location.ofText (base ++ m.path)).withQuery m.query

/-- The form in which a solution is sent on. -/
def Solution.parts (s : Solution) : List Http.Part :=
  [{ name := some SolutionForm.problemIdName
     content := Text.bytes (Text.decimal s.problemId.toNat) },
    { name := some SolutionForm.languageName, content := Text.bytes s.language },
    { name := some SolutionForm.fileName, filename := some s.filename, content := s.content }]

namespace Call

/-- **The message** of a call. -/
def message : Call → Message
  | .getProblem id => { method := "GET", path := "/problem/" ++ Text.decimal id.toNat }
  | .createProblem p => { method := "PUT", path := "/problem", body := .document p.encode }
  | .modifyProblem id p =>
    { method := "POST", path := "/problem/" ++ Text.decimal id.toNat, body := .document p.encode }
  | .listProblems count page =>
    { method := "GET", path := "/problems"
      query := [("count", Text.decimal count.toNat), ("page", Text.decimal page.toNat)] }
  | .getSubmission id => { method := "GET", path := "/submission/" ++ Text.decimal id.toNat }
  | .listSubmissions f defaultCount =>
    { method := "GET", path := "/submissions", query := f.query defaultCount }
  | .submit s => { method := "PUT", path := "/submission", body := .form s.parts }
  | .fetchResource t => { method := "GET", path := t.path }
  | .masterStatus => { method := "GET", path := "/master_status" }
  | .resetInvokerCache => { method := "POST", path := "/reset/invoker_cache" }

/-! ### Replies -/

/-- The names under which the judge may give the id of a new submission. -/
def idNames : List String := ["id", "ID", "submission_id"]

/-- The id in a document that was taken in as a whole. -/
def idIn : Decoder UInt64
  | .object ms =>
    match ms.filter fun (key, _) => idNames.contains key with
    | [(_, id)] => Decode.uint64 id
    | _ => .error .mismatched
  | v => Decode.uint64 v

/-- **The id of a new submission** is a number, or an object with exactly one of three members that
holds it. -/
def submissionId : Decoder UInt64 := fun v => do
  let _ ← v.keep
  Decode.recordOf idIn v

/-- How the payload is read that comes back from a call, and what is made of the envelope. A list
may be missing when it is empty. -/
def ofEnvelope : (c : Call) → Json → Except Refusal c.Answer
  | .getProblem _, v => (Envelope.decode Problem.decode v).map Envelope.result
  | .createProblem _, v => (Envelope.decode Problem.decode v).map Envelope.result
  | .modifyProblem _ _, v => (Envelope.decode Json.keep v).map Envelope.acknowledged
  | .listProblems _ _, v =>
    (Envelope.decode (Decode.list ProblemSummary.decode) v).map fun e =>
      e.optional.map (·.getD [])
  | .getSubmission _, v => (Envelope.decode Submission.decode v).map Envelope.result
  | .listSubmissions _ _, v =>
    (Envelope.decode (Decode.list SubmissionSummary.decode) v).map fun e =>
      e.optional.map (·.getD [])
  | .submit _, v => (Envelope.decode submissionId v).map Envelope.result
  | .fetchResource _, v => (Envelope.decode Resource.decode v).map Envelope.result
  | .masterStatus, v => (Envelope.decode Json.keep v).map Envelope.result
  | .resetInvokerCache, v => (Envelope.decode Json.keep v).map Envelope.acknowledged

/-- **What a reply says** of a call. -/
def ofReply (c : Call) (status : Nat) (body : String) : c.Answer :=
  match Json.decodeText c.ofEnvelope (if Http.hasBody status then body else "") with
  | .ok answer => answer
  | .error _ => .error (.fetchFailed (.unreadable status))

end Call

end JudgeDesk
