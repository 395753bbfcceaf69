import JudgeDesk.Problem.Edit
import JudgeDesk.Proofs.TestGroup.Validity

/-!
# Runs of editing

An editor starts with a blank problem and takes one step after the other: intents of the operator,
and the id that the judge gives to a new problem. An intent that is refused changes nothing.

* `EditStep`, `Problem.step`, `Problem.run` — steps, and runs of them;
* `Problem.step_cases`, `Problem.run_induction` — what a step comes to, and what every step keeps;
* `Problem.valid_run_blank` — in every run from the blank problem all requirements are valid.

Validity holds of the blank problem, which has no groups, and every step keeps it.
-/

namespace JudgeDesk

/-- **A step** of editing. -/
inductive EditStep where
  /-- the operator does something -/
  | intent (intent : ProblemIntent)
  /-- the judge gives an id to the problem -/
  | assignId (id : UInt64)

namespace Problem

/-- **The problem** after a step; what is refused leaves it as it was. -/
def step (p : Problem) : EditStep → Problem
  | .intent intent =>
    match p.apply intent with
    | .ok p' => p'
    | .error _ => p
  | .assignId id => p.withId id

/-- **A run**: steps one after the other. -/
def run (p : Problem) (steps : List EditStep) : Problem := steps.foldl step p

variable {p p' : Problem}

@[simp] theorem groups_setField (p : Problem) (field : ProblemField) (value : String) :
    (p.setField field value).groups = p.groups := by
  cases field <;> simp only [setField]

theorem id_setField (p : Problem) (field : ProblemField) (value : String) :
    (p.setField field value).id = p.id := by
  cases field <;> simp only [setField]

/-- What an intent for the groups comes to: the action on the groups is applied. -/
theorem apply_group_eq_ok {index : Option Nat} {action : GroupAction}
    (h : p.apply (.group index action) = .ok p') :
    ∃ groups, TestGroup.apply p.groups index action = .ok groups ∧ p' = { p with groups } := by
  unfold apply at h
  rcases hgroups : TestGroup.apply p.groups index action with e | groups
  · simp only [hgroups] at h
    cases h
  · simp only [hgroups] at h
    exact ⟨groups, rfl, (Except.ok.inj h).symm⟩

/-- **What a step comes to.** One that is refused changes nothing, and any other one only what it is
about. -/
theorem step_cases (p : Problem) (step : EditStep) :
    p.step step = p ∨
      (∃ id, step = .assignId id ∧ p.step step = p.withId id) ∨
      (∃ q, step = .intent (.replace q) ∧
        p.step step = { q with groups := TestGroup.normalize q.groups }) ∨
      (∃ field value, step = .intent (.field field value) ∧ p.step step = p.setField field value) ∨
      ∃ index action groups, step = .intent (.group index action) ∧
        TestGroup.apply p.groups index action = .ok groups ∧ p.step step = { p with groups } := by
  cases step with
  | assignId id => exact .inr (.inl ⟨id, rfl, rfl⟩)
  | intent intent =>
    cases intent with
    | replace q => exact .inr (.inr (.inl ⟨q, rfl, rfl⟩))
    | field field value => exact .inr (.inr (.inr (.inl ⟨field, value, rfl, rfl⟩)))
    | group index action =>
      rw [Problem.step]
      split
      · next p' happly =>
        obtain ⟨groups, hgroups, rfl⟩ := apply_group_eq_ok happly
        exact .inr (.inr (.inr (.inr ⟨index, action, groups, rfl, hgroups, rfl⟩)))
      · exact .inl rfl

/-- **What every step keeps holds throughout a run.** -/
theorem run_induction {P : Problem → Prop} (h : P p) {steps : List EditStep}
    (hstep : ∀ step ∈ steps, ∀ p, P p → P (p.step step)) : P (p.run steps) := by
  induction steps generalizing p with
  | nil => exact h
  | cons step rest ih =>
    have hfirst : P (p.step step) := hstep step List.mem_cons_self p h
    exact ih hfirst fun step' hstep' => hstep step' (List.mem_cons_of_mem _ hstep')

/-- **Every step keeps the groups valid.** -/
theorem valid_step (h : TestGroup.Valid p.groups) (step : EditStep) :
    TestGroup.Valid (p.step step).groups := by
  rcases p.step_cases step with hsame | ⟨id, -, htaken⟩ | ⟨q, -, htaken⟩ |
    ⟨field, value, -, htaken⟩ | ⟨index, action, groups, -, hgroups, htaken⟩
  · rw [hsame]
    exact h
  · rw [htaken]
    exact h
  · rw [htaken]
    exact TestGroup.valid_normalize q.groups
  · rw [htaken, groups_setField]
    exact h
  · rw [htaken]
    exact h.apply hgroups

theorem valid_run (steps : List EditStep) (h : TestGroup.Valid p.groups) :
    TestGroup.Valid (p.run steps).groups :=
  run_induction (P := fun p => TestGroup.Valid p.groups) h fun step _ _ hp => valid_step hp step

/-- **Requirements are valid throughout.** However a blank problem is edited, every requirement is
the name of an earlier group with complete scoring, none is there twice, and they stand in the
order of the first groups of their names. -/
theorem valid_run_blank (steps : List EditStep) : TestGroup.Valid (run {} steps).groups := by
  refine valid_run steps fun i g hg => ?_
  cases hg

end Problem

end JudgeDesk
