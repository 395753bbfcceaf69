import JudgeDesk.Proofs.Json.Reading
import JudgeDesk.Proofs.Problem.Document
import JudgeDesk.Proofs.Problem.Run
import JudgeDesk.Proofs.TestGroup.Scores

/-!
# Scores that are typed

A save sends the problem that is edited as a document, and that document says the same as the screen
as long as every score is finite. Editing keeps scores finite, except that a score may be typed that
is not: `inf`, `nan` and decimals beyond all bounds read as numbers.

* `TestGroup.FiniteScores.apply` — an action keeps scores finite, unless it types one that is not;
* `EditStep.IsTame`, `EditStep.isTame_of_decodeText` — steps that bring in finite scores only;
* `Problem.decode_encode_run` — what a save sends is what is shown, as long as every score that is
  typed is finite;
* `Problem.decode_encode_infinityTyped` — and it is not, once one is not.
-/

namespace JudgeDesk

/-! ### Scores under editing -/

/-- The score that an action types, if it types one. -/
def GroupAction.score? : GroupAction → Option Binary64
  | .setScore raw => TestGroup.typedScore? raw
  | .setTestScore raw => TestGroup.typedScore? raw
  | _ => none

namespace TestGroup

variable {groups groups' : List TestGroup} {typed : Option Binary64 × Option Binary64}

/-- Scores that come from finite ones are finite. -/
theorem FiniteScores.of_scoredFrom (h : FiniteScores groups)
    (htyped : (typed.1.all Binary64.isFinite && typed.2.all Binary64.isFinite) = true)
    (hfrom : ScoredFrom typed groups groups') : FiniteScores groups' :=
  hfrom.all (P := fun s => (s.1.all Binary64.isFinite && s.2.all Binary64.isFinite) = true)
    htyped h

theorem FiniteScores.normalize (h : FiniteScores groups) : FiniteScores (normalize groups) := by
  have hsame : ScoredFrom (none, none) groups (TestGroup.normalize groups) :=
    scoredFrom_of_map_eq (map_scores_normalize groups)
  exact h.of_scoredFrom rfl hsame

/-- **An action keeps scores finite**, unless it types one that is not. -/
theorem FiniteScores.apply (h : FiniteScores groups) {index : Option Nat} {action : GroupAction}
    (haction : action.score?.all Binary64.isFinite = true)
    (happly : apply groups index action = .ok groups') : FiniteScores groups' := by
  refine h.of_scoredFrom ?_ (scoredFrom_apply happly)
  rw [Bool.and_eq_true]
  cases action with
  | setScore raw => exact ⟨haction, rfl⟩
  | setTestScore raw => exact ⟨rfl, haction⟩
  | _ => exact ⟨rfl, rfl⟩

end TestGroup

/-! ### Runs of editing -/

/-- **Tame steps.** A problem that is swapped in comes out of a document, and a score that is typed
is finite. -/
def EditStep.IsTame : EditStep → Prop
  | .intent (.replace p) => ∃ v : Json, v.isFinite = true ∧ Problem.decode v = .ok p
  | .intent (.group _ action) => action.score?.all Binary64.isFinite = true
  | _ => True

/-- A problem that is decoded from a text may be swapped in. -/
theorem EditStep.isTame_of_decodeText (text : String) {p : Problem}
    (h : Json.decodeText Problem.decode text = .ok p) : (intent (.replace p)).IsTame := by
  refine ⟨(Json.read text).1, Json.isFinite_read text, ?_⟩
  unfold Json.decodeText at h
  dsimp only at h
  split at h
  · cases h
  · next q hdecode =>
    split at h
    · rw [hdecode, Except.ok.inj h]
    · cases h

namespace Problem

variable {p p' : Problem}

/-- **A tame step keeps scores finite.** -/
theorem finiteScores_step (h : TestGroup.FiniteScores p.groups) {step : EditStep}
    (hstep : step.IsTame) : TestGroup.FiniteScores (p.step step).groups := by
  rcases p.step_cases step with hsame | ⟨id, -, htaken⟩ | ⟨q, rfl, htaken⟩ |
    ⟨field, value, -, htaken⟩ | ⟨index, action, groups, rfl, hgroups, htaken⟩
  · rw [hsame]
    exact h
  · rw [htaken]
    exact h
  · obtain ⟨v, hv, hdecode⟩ := hstep
    rw [htaken]
    exact (finiteScores_of_decode hdecode hv).normalize
  · rw [htaken, groups_setField]
    exact h
  · rw [htaken]
    exact h.apply hstep hgroups

theorem finiteScores_run (h : TestGroup.FiniteScores p.groups) {steps : List EditStep}
    (hsteps : ∀ step ∈ steps, step.IsTame) : TestGroup.FiniteScores (p.run steps).groups :=
  run_induction (P := fun p => TestGroup.FiniteScores p.groups) h fun step hmem _ hp =>
    finiteScores_step hp (hsteps step hmem)

/-- **What a save sends is what is shown**, however a blank problem is edited, as long as no score
that is not finite is typed. -/
theorem decode_encode_run {steps : List EditStep} (hsteps : ∀ step ∈ steps, step.IsTame) :
    decode (run {} steps).encode = .ok (run {} steps) :=
  (decode_encode_eq_self_iff _).mpr
    (finiteScores_run (fun _ hg => absurd hg List.not_mem_nil) hsteps)

/-- A problem with one group is swapped in, each test of the group is made worth a half, and the
judge gives the problem an id. -/
def halfTyped : List EditStep :=
  [.intent (.replace { name := "Sum", groups := [{ name := "a", score := some (.ofNat 5) }] }),
    .intent (.group (some 0) (.setTestScore " 0.5")), .assignId 7]

theorem decode_encode_halfTyped :
    (run {} halfTyped).groups = [{ name := "a", testScore := some ⟨0x3FE0000000000000⟩ }] ∧
      decode (run {} halfTyped).encode = .ok (run {} halfTyped) := by
  refine ⟨by decide +kernel, decode_encode_run fun step hstep => ?_⟩
  have hmem : step = halfTyped[0] ∨ step = halfTyped[1] ∨ step = halfTyped[2] := by
    simpa [halfTyped] using hstep
  rcases hmem with rfl | rfl | rfl
  · exact EditStep.isTame_of_decodeText
      "\x7b\"name\": \"Sum\", \"test_groups\": [\x7b\"name\": \"a\", \"score\": 5\x7d]\x7d"
      (by decide +kernel)
  · change (TestGroup.typedScore? " 0.5").all Binary64.isFinite = true
    decide +kernel
  · trivial

/-- A group is added and made worth an infinite score. -/
def infinityTyped : List EditStep :=
  [.intent (.group none .addGroup), .intent (.group (some 0) (.setScore "inf"))]

/-- What a save sends after that has no score. -/
theorem decode_encode_infinityTyped :
    (run {} infinityTyped).groups = [{ score := some (.infinite false) }] ∧
      decode (run {} infinityTyped).encode = .ok { groups := [{}] } ∧
      decode (run {} infinityTyped).encode ≠ .ok (run {} infinityTyped) := by
  have hgroups : (run {} infinityTyped).groups = [{ score := some (.infinite false) }] := by
    decide +kernel
  have hread : decode (run {} infinityTyped).encode = .ok { groups := [{}] } := by
    rw [decode_encode]
    decide +kernel
  refine ⟨hgroups, hread, fun hself => ?_⟩
  have hfinite := (decode_encode_eq_self_iff _).mp hself
  rw [hgroups] at hfinite
  exact absurd (hfinite _ List.mem_cons_self) (by decide)

end Problem

end JudgeDesk
