import JudgeDesk.Submission.Verdict
import JudgeDesk.Http.Query
import JudgeDesk.Error

/-!
# Listing submissions and problems

A listing is cut into pages, and submissions may be filtered.

* `Paging` — which page, and how long;
* `Filter` — which submissions;
* `ofQuery?` — either of them from the query of a request;
* `violations` — the numbers that are out of range;
* `Filter.query` — the query that the judge gets.
-/

namespace JudgeDesk

/-- The most entries that a page may have. -/
def maxPageSize : Nat := 500

/-- The value under a key that may be given once: none if it is not given, and no reading at all if
it is given twice or does not read. -/
def queryField? (q : Http.Query) (key : String) (read : String → Option α) : Option (Option α) :=
  match q.filter (·.1 = key) with
  | [] => some none
  | [(_, value)] => (read value).map some
  | _ => none

/-- **Which page** of a listing. -/
structure Paging where
  /-- how many entries a page has -/
  count : Option UInt32 := none
  /-- which page; pages are counted from one -/
  page : Option UInt32 := none
  deriving DecidableEq, Repr

namespace Paging

/-- The paging that a query asks for. -/
def ofQuery? (q : Http.Query) : Option Paging := do
  let count ← queryField? q "count" Text.uint32?
  let page ← queryField? q "page" Text.uint32?
  return { count, page }

/-- The report of a number, if it is out of range. -/
def violation? (name : String) (least : Nat) (greatest : Option Nat) (n : Option UInt32) :
    Option OutOfRange :=
  n.bind fun n =>
    if n.toNat < least ∨ greatest.any (· < n.toNat) then some ⟨name, n.toNat, least, greatest⟩
    else none

/-- **The numbers out of range**: a page has from one entry to the most that it may have, and there
is no page zero. -/
def violations (p : Paging) : List OutOfRange :=
  [violation? "count" 1 (some maxPageSize) p.count, violation? "page" 1 none p.page].filterMap id

/-- The page, which is the first one if nothing is said. -/
def pageNumber (p : Paging) : UInt32 := p.page.getD 1

end Paging

/-- **Which submissions** to list. -/
structure Filter where
  /-- which page of them -/
  paging : Paging := {}
  /-- solutions of this problem only -/
  problemId : Option UInt64 := none
  /-- submissions with this verdict only -/
  verdict : Option Verdict := none
  /-- submissions in this language only -/
  language : Option String := none
  deriving DecidableEq, Repr

namespace Filter

/-- The filter that a query asks for. -/
def ofQuery? (q : Http.Query) : Option Filter := do
  let paging ← Paging.ofQuery? q
  let problemId ← queryField? q "problem_id" Text.uint64?
  let verdict ← queryField? q "verdict" Verdict.ofWord?
  let language ← queryField? q "language" some
  return { paging, problemId, verdict, language }

/-- **The query for the judge.** The page is always said, a filter only where it is set; an empty
language filters nothing. -/
def query (f : Filter) (defaultCount : UInt32) : Http.Query :=
  [("count", Text.decimal (f.paging.count.getD defaultCount).toNat),
    ("page", Text.decimal f.paging.pageNumber.toNat)] ++
  (f.problemId.map fun id => ("problem_id", Text.decimal id.toNat)).toList ++
  (f.verdict.map fun v => ("verdict", v.word)).toList ++
  ((f.language.filter (· ≠ "")).map fun l => ("language", l)).toList

end Filter

end JudgeDesk
