import JudgeDesk.Proofs.View.Rest
import JudgeDesk.Proofs.Viewer.InFlight

/-!
# Viewers at rest

A viewer reconciles once after everything that it is told, and a pass asks for the artifacts of one
test only. Still nothing that is shown is left waiting for a later pass: a view at rest has at most
one test to ask for after an intent, also if it is an odd one, such as starting the tests over,
asking for single artifacts, or showing tests before any submission is known.

* `View.Served`, `View.served_of_due` — all that is shown was asked for; so it is if nothing is due;
* `View.receive`, `View.due_receive` — a view after an intent and the pass of reconciliation that
  follows is at rest if it was before;
* `Viewer.hear`, `Viewer.due_hear` — a viewer that is told one thing after the other is at rest;
* `Viewer.served_hear` — and leaves nothing waiting.
-/

namespace JudgeDesk

/-! ### Views -/

/-- The artifacts of a set that is shown were all asked for, if none is pending. -/
theorem SlotSet.requested_of_pending {κ : Type} [Artifact κ] {set : SlotSet κ}
    (h : set.pending = []) (hshown : set.shown = true) (k : κ) :
    (set.slot k).requested = true := by
  rw [pending, if_pos hshown, List.filter_eq_nil_iff] at h
  simpa only [Bool.not_eq_true', Bool.not_eq_false] using h k (Artifact.mem_all k)

namespace View

/-- **Nothing that is shown is left waiting**, of a submission and its tests. -/
structure Served (v : View) (s : Submission) : Prop where
  /-- no test has pending artifacts -/
  pending : ∀ set ∈ v.tests.sets, set.pending = []
  /-- the artifacts of a test that is shown were all asked for -/
  requested : ∀ set ∈ v.tests.sets, set.shown = true → ∀ k, (set.slot k).requested = true
  /-- the pair of the compilation was asked for if there is one and it is shown -/
  pair : s.compilationResult.isSome = true → v.compilation.set.shown = true →
    v.compilation.requested = true

/-- **A view at rest leaves nothing waiting.** -/
theorem served_of_due {v : View} {s : Submission} (hs : v.submission = some s)
    (hdue : v.due = []) : v.Served s := by
  obtain ⟨hcompilation, htests⟩ := (due_eq_nil_iff hs).mp hdue
  have hpending : ∀ set ∈ v.tests.sets, set.pending = [] := by
    intro set hset
    have hnone := Tests.due_eq_nil_iff.mp htests set hset
    rwa [Tests.isPending, Bool.not_eq_false', List.isEmpty_iff] at hnone
  refine ⟨hpending, fun set hset hshown => ?_, fun hcompiled hshown => ?_⟩
  · exact SlotSet.requested_of_pending (hpending set hset) hshown
  · simpa only [Compilation.isDue, hcompiled, hshown, Bool.true_and,
      Bool.not_eq_false'] using hcompilation

/-! ### Messages -/

variable {v : View}

/-- **A message**: a view after an intent and one pass, with the orders of the pass. An intent that
is refused changes nothing. -/
def receive (v : View) (intent : ViewIntent) : View × List Fetch :=
  match v.apply intent with
  | .ok v' => v'.reconcile
  | .error _ => (v, [])

/-- At rest it makes no difference whether a pass follows a message that is refused. -/
theorem receive_eq (h : v.due = []) (intent : ViewIntent) :
    v.receive intent = (v.attempt intent).reconcile := by
  unfold receive attempt
  rcases v.apply intent with _ | v'
  · exact (reconcile_of_due h).symm
  · rfl

/-- **A message leaves a view at rest** if it was at rest before. -/
theorem due_receive (h : v.due = []) (intent : ViewIntent) : (v.receive intent).1.due = [] := by
  rw [receive_eq h]
  exact due_reconcile_attempt h intent

end View

/-! ### Viewers -/

namespace Viewer

variable {v : Viewer}

/-- **A viewer that is told one thing after the other.** -/
def hear (v : Viewer) (intents : List ViewIntent) : Viewer := intents.foldl told v

@[simp] theorem hear_concat (v : Viewer) (intents : List ViewIntent) (intent : ViewIntent) :
    v.hear (intents ++ [intent]) = (v.hear intents).told intent := by
  simp only [hear, List.foldl_append, List.foldl_cons, List.foldl_nil]

/-- A viewer that is told an intent passes it on to its view as a message. -/
theorem view_told (v : Viewer) (intent : ViewIntent) :
    (v.told intent).view = (v.view.receive intent).1 := by
  unfold told View.receive
  rcases happly : v.view.apply intent with err | view
  · rw [perform_of_error happly]
  · rw [perform_of_ok happly]

/-- **Whatever a viewer was told, it is at rest.** -/
theorem due_hear (id : UInt64) (intents : List ViewIntent) :
    (hear { submissionId := id } intents).view.due = [] := by
  induction intents using List.reverseRecOn with
  | nil => rfl
  | append_singleton intents intent ih =>
    rw [hear_concat, view_told]
    exact View.due_receive ih intent

/-- **Nothing shown is left waiting.** Whatever a viewer was told, once a submission is there, every
test that is shown has no pending artifacts, and the pair of the compilation was asked for if it is
shown and there is one. -/
theorem served_hear (id : UInt64) (intents : List ViewIntent) {s : Submission}
    (hs : (hear { submissionId := id } intents).view.submission = some s) :
    (hear { submissionId := id } intents).view.Served s :=
  View.served_of_due hs (due_hear id intents)

/-- Things to be told: tests are shown before the submission comes, started over afterwards, and
asked for one artifact of them before they are shown. -/
def oddThings : List ViewIntent :=
  [.test (.reset 3), .test (.toggle 1), .test (.toggle 2), .compilation .toggle,
    .load (.ofOneTest 7), .test (.toggle 1), .test (.reset 2), .test (.request 2 .output),
    .test (.toggle 3), .test (.toggle 2), .compilation .toggle]

theorem served_oddThings :
    ((hear { submissionId := 7 } oddThings).view.tests.sets.map SlotSet.shown) = [false, true] ∧
      (hear { submissionId := 7 } oddThings).outstanding.length = 11 ∧
      (hear { submissionId := 7 } oddThings).view.Served (.ofOneTest 7) := by
  have hs : (hear { submissionId := 7 } oddThings).view.submission = some (.ofOneTest 7) := rfl
  exact ⟨rfl, rfl, served_hear 7 oddThings hs⟩

end Viewer

end JudgeDesk
