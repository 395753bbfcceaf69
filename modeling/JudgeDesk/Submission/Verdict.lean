import JudgeDesk.Json.Record

/-!
# Verdicts

* `Verdict` — where a run stands or how it ended;
* `word`, `ofWord?` — its two letters;
* `decode`, `encode` — a verdict in a document.
-/

namespace JudgeDesk

/-- **A verdict** on a submission, a test or a compilation. -/
inductive Verdict where
  /-- accepted -/
  | accepted
  /-- solved in part -/
  | partialSolution
  /-- wrong answer -/
  | wrongAnswer
  /-- failed while running -/
  | runtimeError
  /-- too much memory -/
  | memoryLimit
  /-- too much time -/
  | timeLimit
  /-- too much time on a clock -/
  | wallTimeLimit
  /-- did what it must not do -/
  | securityViolation
  /-- did not compile -/
  | compilationError
  /-- compiled -/
  | compiled
  /-- the check itself failed -/
  | checkFailed
  /-- waits for its turn -/
  | queued
  /-- is being compiled -/
  | compiling
  /-- is being run -/
  | running
  deriving DecidableEq, Repr

namespace Verdict

/-- The two letters of a verdict. -/
def word : Verdict → String
  | accepted => "OK"
  | partialSolution => "PT"
  | wrongAnswer => "WA"
  | runtimeError => "RT"
  | memoryLimit => "ML"
  | timeLimit => "TL"
  | wallTimeLimit => "WL"
  | securityViolation => "SE"
  | compilationError => "CE"
  | compiled => "CD"
  | checkFailed => "CF"
  | queued => "QD"
  | compiling => "CL"
  | running => "RU"

/-- The verdict of two letters. -/
def ofWord? : String → Option Verdict
  | "OK" => some accepted
  | "PT" => some partialSolution
  | "WA" => some wrongAnswer
  | "RT" => some runtimeError
  | "ML" => some memoryLimit
  | "TL" => some timeLimit
  | "WL" => some wallTimeLimit
  | "SE" => some securityViolation
  | "CE" => some compilationError
  | "CD" => some compiled
  | "CF" => some checkFailed
  | "QD" => some queued
  | "CL" => some compiling
  | "RU" => some running
  | _ => none

/-- The letters of a verdict lead back to it. -/
theorem ofWord?_word (v : Verdict) : ofWord? v.word = some v := by cases v <;> rfl

/-- The verdict of two letters in a document. -/
def ofWord (s : String) : Except Refusal Verdict :=
  match ofWord? s with
  | some v => .ok v
  | none => .error .mismatched

/-- **A verdict in a document** is a string, or an object whose one member has the verdict for its
key and null for its value. Nothing else can even be read in its place. -/
def decode : Decoder Verdict
  | .string s => ofWord s
  | .object ((_, .fault .noKey _) :: _) => .error .malformed
  | .object ((_, .fault .unusableKey _) :: _) => .error .malformed
  | .object ((key, value) :: rest) => do
    let v ← ofWord key
    match value, rest with
    | .null, [] => .ok v
    | .null, _ :: _ => .error .malformed
    | value, _ => .error value.unexpected
  | _ => .error .malformed

/-- A verdict for a document. -/
def encode (v : Verdict) : Json := .string v.word

end Verdict

end JudgeDesk
