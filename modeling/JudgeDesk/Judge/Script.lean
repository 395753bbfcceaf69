import JudgeDesk.Judge.Message

/-!
# A scripted judge

To rehearse what the desk does, the judge can be replaced by a script that says beforehand what
comes of each call.

* `Call.key` — the name under which a script speaks of a call;
* `Script` — what comes of the calls under each name;
* `Script.answer` — the answer to a call, and the script that is left.
-/

namespace JudgeDesk

namespace Call

/-- The name of a call. -/
def name : Call → String
  | .getProblem _ => "get_problem"
  | .createProblem _ => "create_problem"
  | .modifyProblem _ _ => "modify_problem"
  | .listProblems _ _ => "list_problems"
  | .getSubmission _ => "get_submission"
  | .listSubmissions _ _ => "list_submissions"
  | .submit _ => "submit"
  | .fetchResource _ => "fetch_resource"
  | .masterStatus => "master_status"
  | .resetInvokerCache => "reset_invoker_cache"

/-- **The name in a script**: for a download its path, for any other call its name. -/
def key : Call → String
  | .fetchResource t => t.path
  | c => c.name

/-- What is wanted of a call, from a document. -/
def replyOf : (c : Call) → Json → Except Refusal c.Reply
  | .getProblem _, v => Problem.decode v
  | .createProblem _, v => Problem.decode v
  | .modifyProblem _ _, _ => .ok ()
  | .listProblems _ _, v => Decode.list ProblemSummary.decode v
  | .getSubmission _, v => Submission.decode v
  | .listSubmissions _ _, v => Decode.list SubmissionSummary.decode v
  | .submit _, v => Decode.uint64 v
  | .fetchResource _, v => Resource.decode v
  | .masterStatus, v => v.keep
  | .resetInvokerCache, _ => .ok ()

end Call

/-- **A script**: under each name, what comes of the calls one after the other. -/
structure Script where
  /-- the names with what comes of their calls -/
  lines : List (String × List (Except Error Json)) := []

namespace Script

/-- What comes of the next call under a name, which is for the last time the same from then on. -/
def next (key : String) : List (String × List (Except Error Json)) →
    List (String × List (Except Error Json)) × Option (Except Error Json)
  | [] => ([], none)
  | (name, results) :: rest =>
    if name = key then
      match results with
      | [] => ((name, []) :: rest, none)
      | [last] => ((name, [last]) :: rest, some last)
      | first :: more => ((name, more) :: rest, some first)
    else
      let (rest, found) := next key rest
      ((name, results) :: rest, found)

/-- **The answer** to a call, and what is left of the script. Of a call that the script does not
speak of comes a failure. -/
def answer (s : Script) (c : Call) : Script × c.Answer :=
  let (lines, found) := next c.key s.lines
  let result : c.Answer := match found with
    | none => .error (.fetchFailed (.reported ("no script for " ++ c.key)))
    | some (.error e) => .error e
    | some (.ok v) =>
      match c.replyOf v with
      | .ok reply => .ok reply
      | .error _ => .error .internal
  ({ lines }, result)

end Script

end JudgeDesk
