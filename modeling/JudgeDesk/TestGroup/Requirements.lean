import JudgeDesk.TestGroup.Basic

/-!
# Requirements

A group may require the groups of a name if an earlier one of them is eligible. Requirements are
kept in the order of the groups they name.

* `rank` — where the groups of a name stand;
* `sorted` — requirements in that order;
* `candidates` — what a group may still require;
* `purge` — the other groups lose their requirements on a name;
* `normalize` — every requirement that cannot hold is dropped.
-/

namespace JudgeDesk.TestGroup

/-- **Rank** of a name: the position of the first group that carries it, or the number of groups if
none does. -/
def rank (groups : List TestGroup) (name : String) : Nat := groups.findIdx (·.name = name)

/-- A name put into a list in order of rank, before the first name that does not rank lower. -/
def insertByRank (groups : List TestGroup) (name : String) : List String → List String
  | [] => [name]
  | n :: rest =>
    if rank groups n < rank groups name then n :: insertByRank groups name rest
    else name :: n :: rest

/-- Names in order of rank; names of equal rank stay as they were. -/
def sortByRank (groups : List TestGroup) : List String → List String
  | [] => []
  | n :: rest => insertByRank groups n (sortByRank groups rest)

/-- **Sorting.** The requirements of every group in order of rank. -/
def sorted (groups : List TestGroup) : List TestGroup :=
  groups.map fun g => { g with required := sortByRank groups g.required }

/-- **Candidates.** What the group at a position may still require: the names of the eligible groups
before it that it does not require yet, one for each such group. -/
def candidates (groups : List TestGroup) (index : Nat) : List String :=
  match groups[index]? with
  | none => []
  | some g =>
    ((groups.take index).filter fun c => c.isEligible && !g.requires c.name).map (·.name)

/-- The candidates of every group. -/
def allCandidates (groups : List TestGroup) : List (List String) :=
  (List.range groups.length).map (candidates groups)

/-- A group without its requirements on a name. -/
def dropRequirement (name : String) (g : TestGroup) : TestGroup :=
  { g with required := g.required.filter (· ≠ name) }

/-- **Purge.** All groups but the one at `owner` lose their requirements on a name. -/
def purge (owner : Nat) (name : String) (groups : List TestGroup) : List TestGroup :=
  groups.mapIdx fun i g => if i = owner then g else dropRequirement name g

/-- The first mention of each name that passes, in order, after those of `kept`. -/
def firstMentions (passes : String → Bool) (kept : List String) : List String → List String
  | [] => kept
  | n :: rest =>
    if passes n && n ∉ kept then firstMentions passes (kept ++ [n]) rest
    else firstMentions passes kept rest

/-- Whether the group at a position may require the groups of a name at all. -/
def mayRequire (groups : List TestGroup) (index : Nat) (name : String) : Bool :=
  (groups.take index).any fun c => c.isEligible && c.name = name

/-- **Normal requirements.** Every group keeps the first mention of each name that it may require,
in order of rank. -/
def normalize (groups : List TestGroup) : List TestGroup :=
  sorted (groups.mapIdx fun i g =>
    { g with required := firstMentions (mayRequire groups i) [] g.required })

end JudgeDesk.TestGroup
