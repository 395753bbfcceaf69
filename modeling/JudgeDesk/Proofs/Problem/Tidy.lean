import JudgeDesk.Json.Reader
import JudgeDesk.Problem.Document
import JudgeDesk.Proofs.Problem.Run
import JudgeDesk.Proofs.TestGroup.Scores

/-!
# Tidy problems

A problem is tidy if it holds nothing that could not have been typed into a form: a group is worth
something as a whole, or each of its tests is, but not both, and a limit that may be absent is never
there with an empty text. Whatever is typed keeps a problem tidy. A problem that is swapped in is
taken as it comes, except for its requirements, and so it need not be tidy.

* `Problem.Tidy`, `Problem.tidy_normalize_iff` — tidiness, which normal requirements leave alone;
* `Problem.Tidy.step` — a step keeps a problem tidy, unless it swaps in one that is not;
* `Problem.tidy_run_iff` — a problem stays tidy throughout a run exactly if all that are swapped in
  are;
* `Problem.not_tidy_swappedIn` — a document that brings in a problem that is not.
-/

namespace JudgeDesk

/-! ### Groups -/

namespace TestGroup

variable {groups groups' : List TestGroup}

/-- **Whether no group is scored twice**, as a whole and by its tests. -/
def ScoredOnce (groups : List TestGroup) : Prop :=
  ∀ g ∈ groups, g.score = none ∨ g.testScore = none

theorem scoredOnce_congr (h : groups'.map scores = groups.map scores) :
    ScoredOnce groups' ↔ ScoredOnce groups := by
  have hscores (groups : List TestGroup) :
      ScoredOnce groups ↔ ∀ s ∈ groups.map scores, s.1 = none ∨ s.2 = none := by
    rw [List.forall_mem_map]
    rfl
  rw [hscores, hscores, h]

/-- **Every action leaves groups scored once**, as it sets one score at most. -/
theorem ScoredOnce.apply (h : ScoredOnce groups) {index : Option Nat} {action : GroupAction}
    (happly : apply groups index action = .ok groups') : ScoredOnce groups' := by
  have htyped : action.typedScores.1 = none ∨ action.typedScores.2 = none := by
    cases action with
    | setScore raw => exact .inr rfl
    | _ => exact .inl rfl
  exact (scoredFrom_apply happly).all (P := fun s => s.1 = none ∨ s.2 = none) htyped h

end TestGroup

/-! ### Problems -/

namespace Problem

variable {p : Problem}

/-- **A tidy problem.** -/
structure Tidy (p : Problem) : Prop where
  /-- no group has two scores -/
  groups : TestGroup.ScoredOnce p.groups
  /-- the limit on the time on a clock is absent, or there is something in it -/
  wallTimeLimit : p.wallTimeLimit ≠ some ""
  /-- the limit on output is absent, or there is something in it -/
  maxOutputSize : p.maxOutputSize ≠ some ""

theorem typedText_ne_some_empty (value : String) : typedText value ≠ some "" := by
  unfold typedText
  split
  · exact Option.some_ne_none "" ∘ Eq.symm
  · next hvalue => exact fun h => hvalue (Option.some.inj h)

/-- **Fields are set to what was typed**, and an empty text takes a limit away. -/
theorem Tidy.setField (h : p.Tidy) (field : ProblemField) (value : String) :
    (p.setField field value).Tidy := by
  refine ⟨?_, ?_, ?_⟩
  · rw [groups_setField]
    exact h.groups
  · cases field with
    | wallTimeLimit => exact typedText_ne_some_empty value
    | _ =>
      simp only [Problem.setField]
      exact h.wallTimeLimit
  · cases field with
    | maxOutputSize => exact typedText_ne_some_empty value
    | _ =>
      simp only [Problem.setField]
      exact h.maxOutputSize

/-- A problem whose requirements are made normal is as tidy as it was. -/
theorem tidy_normalize_iff (p : Problem) :
    ({ p with groups := TestGroup.normalize p.groups } : Problem).Tidy ↔ p.Tidy := by
  have hgroups := TestGroup.scoredOnce_congr (TestGroup.map_scores_normalize p.groups)
  constructor
  · intro h
    exact ⟨hgroups.mp h.groups, h.wallTimeLimit, h.maxOutputSize⟩
  · intro h
    exact ⟨hgroups.mpr h.groups, h.wallTimeLimit, h.maxOutputSize⟩

/-- **A step keeps a problem tidy**, unless it swaps in one that is not. -/
theorem Tidy.step (h : p.Tidy) {step : EditStep}
    (hstep : ∀ q, step = .intent (.replace q) → q.Tidy) : (p.step step).Tidy := by
  rcases p.step_cases step with hsame | ⟨id, -, htaken⟩ | ⟨q, hreplace, htaken⟩ |
    ⟨field, value, -, htaken⟩ | ⟨index, action, groups, -, hgroups, htaken⟩
  · rw [hsame]
    exact h
  · rw [htaken]
    exact ⟨h.groups, h.wallTimeLimit, h.maxOutputSize⟩
  · rw [htaken]
    exact (tidy_normalize_iff q).mpr (hstep q hreplace)
  · rw [htaken]
    exact h.setField field value
  · rw [htaken]
    exact ⟨h.groups.apply hgroups, h.wallTimeLimit, h.maxOutputSize⟩

theorem Tidy.run (h : p.Tidy) {steps : List EditStep}
    (hsteps : ∀ q, .intent (.replace q) ∈ steps → q.Tidy) : (p.run steps).Tidy :=
  run_induction (P := Tidy) h fun _ hmem _ hp => hp.step fun q hq => hsteps q (hq ▸ hmem)

/-- **A problem is tidy throughout a run exactly if every problem that is swapped in is.** Nothing
that is typed, and no id that is assigned, makes it untidy; and one that is swapped in is not made
tidy. -/
theorem tidy_run_iff (steps : List EditStep) :
    (∀ front, front <+: steps → (run {} front).Tidy) ↔
      ∀ q, .intent (.replace q) ∈ steps → q.Tidy := by
  constructor
  · intro h q hq
    obtain ⟨front, back, rfl⟩ := List.append_of_mem hq
    have htaken : (run {} (front ++ [.intent (.replace q)])).Tidy :=
      h _ ⟨back, by rw [List.append_assoc, List.singleton_append]⟩
    rw [run, List.foldl_append] at htaken
    exact (tidy_normalize_iff q).mp htaken
  · intro h front hfront
    have hblank : Tidy {} := ⟨fun _ hg => absurd hg List.not_mem_nil, nofun, nofun⟩
    exact hblank.run fun q hq => h q (hfront.subset hq)

/-- A document with an empty limit, and with a group that is scored twice. -/
def untidyDocument : String :=
  "\x7b\"name\": \"Sum\", \"wall_time_limit\": \"\", \"test_groups\": [\x7b\"name\": \"a\", " ++
    "\"score\": 5, \"test_score\": 5\x7d]\x7d"

/-- The problem in it. -/
def untidy : Problem :=
  { name := "Sum"
    wallTimeLimit := some ""
    groups := [{ name := "a", score := some (.ofNat 5), testScore := some (.ofNat 5) }] }

/-- The problem is swapped in as it is. -/
theorem not_tidy_swappedIn :
    Json.decodeText Problem.decode untidyDocument = .ok untidy ∧
      run {} [.intent (.replace untidy)] = untidy ∧
      ¬(run {} [.intent (.replace untidy)]).Tidy := by
  have htaken : run {} [.intent (.replace untidy)] = untidy := by decide +kernel
  refine ⟨by decide +kernel, htaken, fun htidy => ?_⟩
  rw [htaken] at htidy
  exact htidy.wallTimeLimit rfl

end Problem

end JudgeDesk
