import JudgeDesk.Proofs.TestGroup.Validity

/-!
# Where scores come from

A group is worth something as a whole, or each of its tests is. An action on the groups either
leaves both scores of a group as they are or sets them both: it types one and clears the other, or
it clears both. What is done to requirements leaves all scores alone.

* `scores`, `map_scores_normalize` — the scores of a group, which normal requirements leave alone;
* `GroupAction.typedScores` — the scores that an action sets;
* `ScoredFrom`, `scoredFrom_apply` — after an action every group has its scores from a group before
  it or from the action.
-/

namespace JudgeDesk

/-- **The scores that an action sets**: the one that is typed and none of the other kind, or none at
all. -/
def GroupAction.typedScores : GroupAction → Option Binary64 × Option Binary64
  | .setScore raw => (TestGroup.typedScore? raw, none)
  | .setTestScore raw => (none, TestGroup.typedScore? raw)
  | _ => (none, none)

namespace TestGroup

variable {groups groups' groups'' : List TestGroup} {typed : Option Binary64 × Option Binary64}

/-- **Scores** of a group: what it is worth as a whole, and what each of its tests is. -/
def scores (g : TestGroup) : Option Binary64 × Option Binary64 := (g.score, g.testScore)

@[simp] theorem map_scores_sorted (groups : List TestGroup) :
    (sorted groups).map scores = groups.map scores := by
  rw [sorted, List.map_map]
  rfl

@[simp] theorem map_scores_purge (owner : Nat) (name : String) (groups : List TestGroup) :
    (purge owner name groups).map scores = groups.map scores := by
  refine map_mapIdx_eq_map scores fun i g => ?_
  split
  · rfl
  · rfl

@[simp] theorem map_scores_normalize (groups : List TestGroup) :
    (normalize groups).map scores = groups.map scores := by
  rw [normalize, map_scores_sorted]
  exact map_mapIdx_eq_map scores fun _ _ => rfl

/-- **Where scores come from**: every group of the second list has its scores from one of the first,
or they are those that were typed. -/
def ScoredFrom (typed : Option Binary64 × Option Binary64) (groups groups' : List TestGroup) :
    Prop :=
  ∀ g' ∈ groups', g'.scores = typed ∨ ∃ g ∈ groups, g'.scores = g.scores

theorem ScoredFrom.trans (h : ScoredFrom typed groups groups')
    (h' : ScoredFrom typed groups' groups'') : ScoredFrom typed groups groups'' := by
  intro g'' hg''
  rcases h' g'' hg'' with htyped | ⟨g', hg', hsame'⟩
  · exact .inl htyped
  · rcases h g' hg' with htyped | ⟨g, hg, hsame⟩
    · exact .inl (hsame'.trans htyped)
    · exact .inr ⟨g, hg, hsame'.trans hsame⟩

/-- **What holds of all scores before, and of those that are typed, holds of all scores after.** -/
theorem ScoredFrom.all {P : Option Binary64 × Option Binary64 → Prop}
    (h : ScoredFrom typed groups groups') (htyped : P typed) (hgroups : ∀ g ∈ groups, P g.scores) :
    ∀ g' ∈ groups', P g'.scores := by
  intro g' hg'
  rcases h g' hg' with heq | ⟨g, hg, heq⟩
  · rw [heq]
    exact htyped
  · rw [heq]
    exact hgroups g hg

/-- Groups that keep their scores. -/
theorem scoredFrom_of_map_eq (h : groups'.map scores = groups.map scores) :
    ScoredFrom typed groups groups' := by
  intro g' hg'
  have hmem : g'.scores ∈ groups.map scores := by
    rw [← h]
    exact List.mem_map_of_mem hg'
  obtain ⟨g, hg, heq⟩ := List.mem_map.mp hmem
  exact .inr ⟨g, hg, heq.symm⟩

/-- A group that is changed. -/
theorem scoredFrom_modify (groups : List TestGroup) (i : Nat) {f : TestGroup → TestGroup}
    (hf : ∀ g, (f g).scores = typed ∨ (f g).scores = g.scores) :
    ScoredFrom typed groups (groups.modify i f) := by
  intro g' hg'
  obtain ⟨j, hj⟩ := List.mem_iff_getElem?.mp hg'
  rw [List.getElem?_modify] at hj
  obtain ⟨g, hg, rfl⟩ := Option.map_eq_some_iff.mp hj
  have hmem : g ∈ groups := List.mem_of_getElem? hg
  split
  · exact (hf g).imp id fun hsame => ⟨g, hmem, hsame⟩
  · exact .inr ⟨g, hmem, rfl⟩

theorem scoredFrom_rename (groups : List TestGroup) (i : Nat) (name : String) :
    ScoredFrom typed groups (rename groups i name) := by
  unfold rename
  split
  · exact scoredFrom_of_map_eq rfl
  · next g hg =>
    split
    · exact scoredFrom_of_map_eq rfl
    · exact (scoredFrom_of_map_eq (map_scores_purge i g.name groups)).trans
        (scoredFrom_modify _ i fun _ => .inr rfl)

/-- Another kind of scoring clears the scores, and the same one does not. -/
theorem scoredFrom_rescore (groups : List TestGroup) (i : Nat) (kind : ScoringType) :
    ScoredFrom (none, none) groups (rescore groups i kind) := by
  unfold rescore
  split
  · exact scoredFrom_of_map_eq rfl
  · next g hg =>
    have hpurged : ScoredFrom (none, none) groups
        (if kind = .complete then groups else purge i g.name groups) := by
      split
      · exact scoredFrom_of_map_eq rfl
      · exact scoredFrom_of_map_eq (map_scores_purge i g.name groups)
    refine hpurged.trans (scoredFrom_modify _ i fun g' => ?_)
    dsimp only
    split
    · exact .inr rfl
    · exact .inl rfl

theorem scoredFrom_remove (groups : List TestGroup) (i : Nat) :
    ScoredFrom typed groups (remove groups i) := by
  unfold remove
  split
  · exact scoredFrom_of_map_eq rfl
  · next g hg =>
    have hpurged : ScoredFrom typed groups (purge i g.name groups) :=
      scoredFrom_of_map_eq (map_scores_purge i g.name groups)
    exact fun g' hg' => hpurged g' (List.mem_of_mem_eraseIdx hg')

/-- **What an action does to scores.** -/
theorem scoredFrom_perform (groups : List TestGroup) (i : Nat) (action : GroupAction) :
    ScoredFrom action.typedScores groups (perform groups i action) := by
  have hsame : ScoredFrom action.typedScores groups groups := scoredFrom_of_map_eq rfl
  cases action with
  | addGroup =>
    intro g' hg'
    rcases List.mem_append.mp hg' with hg | hnew
    · exact .inr ⟨g', hg, rfl⟩
    · rw [List.mem_singleton.mp hnew]
      exact .inl rfl
  | setName name => exact scoredFrom_rename groups i name
  | setFirstTest raw =>
    simp only [perform]
    split
    · exact scoredFrom_modify groups i fun _ => .inr rfl
    · exact hsame
  | setLastTest raw =>
    simp only [perform]
    split
    · exact scoredFrom_modify groups i fun _ => .inr rfl
    · exact hsame
  | setScoringType raw =>
    simp only [perform]
    split
    · exact scoredFrom_rescore groups i _
    · exact hsame
  | setFeedbackType raw =>
    simp only [perform]
    split
    · exact scoredFrom_modify groups i fun _ => .inr rfl
    · exact hsame
  | setScore raw => exact scoredFrom_modify groups i fun _ => .inl rfl
  | setTestScore raw => exact scoredFrom_modify groups i fun _ => .inl rfl
  | addRequired name => exact scoredFrom_modify groups i fun _ => .inr rfl
  | removeRequired name => exact scoredFrom_modify groups i fun _ => .inr rfl
  | removeGroup => exact scoredFrom_remove groups i

/-- **After an action every group has its scores from a group before it, or from the action.** -/
theorem scoredFrom_apply {index : Option Nat} {action : GroupAction}
    (h : apply groups index action = .ok groups') :
    ScoredFrom action.typedScores groups groups' := by
  obtain ⟨i, -, -, rfl⟩ := apply_eq_ok h
  have hsorted : ScoredFrom action.typedScores (perform groups i action)
      (sorted (perform groups i action)) := scoredFrom_of_map_eq (map_scores_sorted _)
  exact (scoredFrom_perform groups i action).trans hsorted

end TestGroup

end JudgeDesk
