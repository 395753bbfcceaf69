import JudgeDesk.Problem.Basic
import JudgeDesk.Submission.Filter
import JudgeDesk.Submission.Form
import JudgeDesk.Artifact.Basic
import JudgeDesk.Error

/-!
# Calls to the judge

All that the desk knows and does goes through ten calls to the judge. What the desk does on a
request is written down as an exchange: it makes calls one after the other, and each step may
depend on the replies so far. Who carries the exchange out decides where the replies come from.

* `Call` — the calls;
* `Call.Reply` — what is wanted of each;
* `Exchange` — a sequence of calls with a value at its end;
* `Exchange.run` — an exchange carried out against given answers.
-/

namespace JudgeDesk

/-- **A call** to the judge. -/
inductive Call where
  /-- get a problem -/
  | getProblem (id : UInt64)
  /-- keep a new problem -/
  | createProblem (problem : Problem)
  /-- keep a problem in place of the one with that id -/
  | modifyProblem (id : UInt64) (problem : Problem)
  /-- list problems -/
  | listProblems (count page : UInt32)
  /-- get a submission -/
  | getSubmission (id : UInt64)
  /-- list submissions; the count is for a filter that says none -/
  | listSubmissions (filter : Filter) (defaultCount : UInt32)
  /-- judge a solution -/
  | submit (solution : Solution)
  /-- get an artifact -/
  | fetchResource (target : Target)
  /-- tell how the judge itself is -/
  | masterStatus
  /-- forget what the invokers have kept of problems -/
  | resetInvokerCache

/-- **What is wanted** of a call. -/
abbrev Call.Reply : Call → Type
  | .getProblem _ => Problem
  | .createProblem _ => Problem
  | .modifyProblem _ _ => Unit
  | .listProblems _ _ => List ProblemSummary
  | .getSubmission _ => Submission
  | .listSubmissions _ _ => List SubmissionSummary
  | .submit _ => UInt64
  | .fetchResource _ => Resource
  | .masterStatus => Json
  | .resetInvokerCache => Unit

/-- What came of a call: what was wanted, or an error. -/
abbrev Call.Answer (c : Call) : Type := Except Error c.Reply

/-- **An exchange** with the judge. -/
inductive Exchange (α : Type) where
  /-- it is over -/
  | done (value : α)
  /-- make a call and go on with what came of it -/
  | ask (call : Call) (next : call.Answer → Exchange α)

namespace Exchange

/-- One exchange after the other. -/
def bind {α β : Type} : Exchange α → (α → Exchange β) → Exchange β
  | done x, f => f x
  | ask c next, f => ask c fun r => (next r).bind f

instance : Monad Exchange where
  pure := done
  bind := bind

/-- An exchange of a single call. -/
def call (c : Call) : Exchange c.Answer := ask c done

/-- **Carrying an exchange out** against a judge with a state of its own. The judge's answer to a
call, and its state after it, are given. -/
def run {σ α : Type} (judge : σ → (c : Call) → σ × c.Answer) (s : σ) : Exchange α → σ × α
  | done x => (s, x)
  | ask c next =>
    let (s, r) := judge s c
    run judge s (next r)

end Exchange

end JudgeDesk
