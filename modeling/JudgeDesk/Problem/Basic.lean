import JudgeDesk.TestGroup.Basic

/-!
# Problems

A problem is a document that the judge keeps and the operator edits. Limits that a problem need not
have are either absent or hold a value.

* `ProblemType` — the two families of problems;
* `Problem` — the document;
* `ProblemSummary` — a problem in a listing.
-/

namespace JudgeDesk

/-- The families of problems, after the contests they come from. -/
inductive ProblemType where
  /-- solved as a whole or not at all -/
  | icpc
  /-- scored by test groups -/
  | ioi
  deriving DecidableEq, Repr

instance : Coded ProblemType where
  kind := "problem type"
  code
    | .icpc => 1
    | .ioi => 2
  ofCode?
    | 1 => some .icpc
    | 2 => some .ioi
    | _ => none
  ofCode?_code x := by cases x <;> rfl
  code_lt x := by cases x <;> decide

/-- **A problem.** -/
structure Problem where
  /-- the judge's number for it; none for a problem that the judge does not have yet -/
  id : Option UInt64 := none
  /-- its title -/
  name : String := ""
  /-- its family -/
  problemType : ProblemType := .icpc
  /-- the limit on the time of a run -/
  timeLimit : String := ""
  /-- the limit on the memory of a run -/
  memoryLimit : String := ""
  /-- how many tests it has -/
  testsNumber : UInt64 := 0
  /-- the limit on the time that passes on a clock during a run -/
  wallTimeLimit : Option String := none
  /-- the limit on files that are open at once -/
  maxOpenFiles : Option UInt64 := none
  /-- the limit on threads -/
  maxThreads : Option UInt64 := none
  /-- the limit on what a run may write -/
  maxOutputSize : Option String := none
  /-- its test groups in order; they matter for problems that are scored by groups -/
  groups : List TestGroup := []
  deriving DecidableEq, Repr

/-- A problem in a listing. -/
structure ProblemSummary where
  /-- the judge's number for it -/
  id : UInt64
  /-- its title -/
  name : String
  deriving DecidableEq, Repr

end JudgeDesk
