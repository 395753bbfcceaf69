import JudgeDesk.Proofs.Problem.Run
import JudgeDesk.Proofs.TestGroup.Names
import JudgeDesk.Proofs.TestGroup.Replay

/-!
# Unambiguous requirements

A problem whose groups have distinct names is swapped in and edited. Its names stay distinct, as no
action makes two groups share one, and its requirements are valid throughout. So every requirement
is on one group, an earlier one, and nobody has to guess which is meant.

* `distinct_step`, `distinct_run` — names stay distinct unless another problem is swapped in;
* `designates_run` — what this means for requirements.
-/

namespace JudgeDesk.Problem

open TestGroup (Distinct Designates nameAt formerly requiredAt Valid)

variable {p : Problem}

/-- **A step leaves names distinct**, unless it swaps in another problem. -/
theorem distinct_step (h : Distinct p.groups) {step : EditStep}
    (hstep : ∀ q, step ≠ .intent (.replace q)) : Distinct (p.step step).groups := by
  rcases p.step_cases step with hsame | ⟨id, -, htaken⟩ | ⟨q, hreplace, -⟩ |
    ⟨field, value, -, htaken⟩ | ⟨index, action, groups, -, hgroups, htaken⟩
  · rw [hsame]
    exact h
  · rw [htaken]
    exact h
  · exact absurd hreplace (hstep q)
  · rw [htaken, groups_setField]
    exact h
  · rw [htaken]
    exact h.apply hgroups

theorem distinct_run (h : Distinct p.groups) {steps : List EditStep}
    (hsteps : ∀ q, .intent (.replace q) ∉ steps) : Distinct (p.run steps).groups :=
  run_induction (P := fun p => Distinct p.groups) h fun _ hmem _ hp =>
    distinct_step hp fun q hq => hsteps q (hq ▸ hmem)

/-- **Requirements are unambiguous.** Whatever groups there are, two that share a name after an
action, other than the empty one, are two that shared it before. And when a problem whose names are
distinct is swapped in and edited in whatever way, its names stay distinct, and every requirement
designates one group, which stands before the one that requires it. -/
theorem designates_run :
    (∀ groups groups' index action, TestGroup.apply groups index action = .ok groups' →
      ∀ j k n, j ≠ k → n ≠ "" → nameAt groups' j = some n → nameAt groups' k = some n →
        formerly index action j ≠ formerly index action k ∧
          nameAt groups (formerly index action j) = some n ∧
          nameAt groups (formerly index action k) = some n) ∧
    ∀ (p q : Problem) (steps : List EditStep), Distinct q.groups →
      (∀ q', .intent (.replace q') ∉ steps) →
      Distinct (p.run (.intent (.replace q) :: steps)).groups ∧
        ∀ i n, n ∈ requiredAt (p.run (.intent (.replace q) :: steps)).groups i →
          ∃ j < i, Designates (p.run (.intent (.replace q) :: steps)).groups n j := by
  refine ⟨fun groups groups' index action happly j k n hjk hn hj hk => ?_,
    fun p q steps hdistinct hsteps => ?_⟩
  · exact TestGroup.nameAt_formerly_of_apply happly hjk hn hj hk
  · have hnormal : Distinct (TestGroup.normalize q.groups) := by
      have hface := TestGroup.map_face_eq_of_bare (TestGroup.map_bare_normalize q.groups)
      exact (TestGroup.distinct_congr (TestGroup.names_eq_of_faces hface)).mpr hdistinct
    have hvalid : Valid (p.run (.intent (.replace q) :: steps)).groups :=
      valid_run (p := p.step (.intent (.replace q))) steps (TestGroup.valid_normalize q.groups)
    have hstill : Distinct (p.run (.intent (.replace q) :: steps)).groups :=
      distinct_run (p := p.step (.intent (.replace q))) hnormal hsteps
    refine ⟨hstill, fun i n hn => ?_⟩
    obtain ⟨g, hg, hmem⟩ := TestGroup.mem_requiredAt_iff.mp hn
    exact hvalid.exists_designates hstill hg hmem

/-- A problem with a group that has no name. -/
def halfNamed : Problem :=
  { groups := [{ name := "A" }, { name := "B", required := ["A"] }, {},
      { name := "C", required := ["A", "B"] }] }

/-- Two groups are to be given names that are taken, one is removed, and its name is given to another
one, which is required then. -/
def renamings : List EditStep :=
  [.intent (.group (some 1) (.setName "A")), .intent (.group none .addGroup),
    .intent (.group (some 4) (.setName "C")), .intent (.group (some 0) .removeGroup),
    .intent (.group (some 1) (.setName "A")), .intent (.group (some 2) (.addRequired "A"))]

/-- Two namesakes are left when the group between them is removed, and they were namesakes before;
and the requirements that are left after some renamings designate one group each. -/
theorem designates_run_renamings :
    TestGroup.apply [{ name := "A" }, { name := "B" }, { name := "A" }] (some 1) .removeGroup =
        .ok [{ name := "A" }, { name := "A" }] ∧
      nameAt [{ name := "A" }, { name := "B" }, { name := "A" }]
        (formerly (some 1) .removeGroup 1) = some "A" ∧
      Distinct halfNamed.groups ∧ (∀ q, .intent (.replace q) ∉ renamings) ∧
      requiredAt (run {} (.intent (.replace halfNamed) :: renamings)).groups 2 = ["B", "A"] ∧
      ∃ j < 2, Designates (run {} (.intent (.replace halfNamed) :: renamings)).groups "A" j := by
  have happly : TestGroup.apply [{ name := "A" }, { name := "B" }, { name := "A" }] (some 1)
      .removeGroup = .ok [{ name := "A" }, { name := "A" }] := rfl
  have hdistinct : Distinct halfNamed.groups := by decide
  have hsteps : ∀ q, .intent (.replace q) ∉ renamings := by
    intro q hq
    simp [renamings] at hq
  have hrequired :
      requiredAt (run {} (.intent (.replace halfNamed) :: renamings)).groups 2 = ["B", "A"] := by
    decide +kernel
  refine ⟨happly, ?_, hdistinct, hsteps, hrequired, ?_⟩
  · exact (designates_run.1 _ _ _ _ happly 0 1 "A" (by decide) (by decide) rfl rfl).2.2
  · refine (designates_run.2 {} halfNamed renamings hdistinct hsteps).2 2 "A" ?_
    rw [hrequired]
    decide

end JudgeDesk.Problem
