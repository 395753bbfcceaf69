import JudgeDesk.Proofs.View.Due

/-!
# Views at rest

A view is *at rest* if nothing is due. A pass of reconciliation asks for the artifacts of one test
only, and yet it is enough: whatever happens to a view at rest, at most one test has pending
artifacts afterwards, so that a single pass brings the view to rest again.

* `SlotSet.pending_requestAll` — what is asked for is not pending any more;
* `Tests.PendingOnlyAt`, `Tests.due_reconcile` — one pass is enough for one test;
* `View.tests_attempt` — an intent changes the slots of one test, or starts over;
* `View.due_reconcile_attempt` — one intent and one pass lead from rest to rest.
-/

namespace JudgeDesk

namespace SlotSet

variable {κ : Type}

theorem shown_requestAll [DecidableEq κ] (ks : List κ) (s : SlotSet κ) :
    (s.requestAll ks).shown = s.shown := by
  unfold requestAll
  induction ks generalizing s with
  | nil => rfl
  | cons k rest ih => exact ih (s.request k)

/-- **What is asked for is not pending any more.** -/
theorem pending_requestAll [DecidableEq κ] [Artifact κ] (s : SlotSet κ) :
    (s.requestAll s.pending).pending = [] := by
  rw [pending, shown_requestAll]
  split
  · next hshown =>
    refine List.filter_eq_nil_iff.mpr fun k hk => ?_
    rw [slot_requestAll]
    by_cases hrequested : (s.slot k).requested = true
    · split <;> simp only [Slot.request, hrequested, Bool.not_true, Bool.false_eq_true,
        not_false_eq_true]
    · have hpending : k ∈ s.pending := by
        rw [pending, if_pos hshown]
        exact List.mem_filter.mpr ⟨hk, by simpa using hrequested⟩
      rw [if_pos hpending]
      exact Bool.false_ne_true
  · rfl

end SlotSet

namespace Compilation

/-- After a pass the pair is not due. -/
theorem isDue_reconcile (c : Compilation) (s : Submission) (generation : UInt64) :
    (c.reconcile s generation).1.isDue s = false := by
  unfold reconcile
  by_cases h : c.isDue s = true
  · rw [if_pos h]
    exact Bool.and_false _
  · rw [if_neg h]
    exact Bool.eq_false_iff.mpr h

end Compilation

/-! ### Tests -/

namespace Tests

variable {ts : Tests} {i : Nat}

theorem due_eq_nil_iff : ts.due = [] ↔ ∀ set ∈ ts.sets, isPending set = false := by
  rw [← List.findIdx?_eq_none_iff]
  unfold due
  rcases h : ts.sets.findIdx? isPending with _ | i
  · exact iff_of_true rfl rfl
  · refine iff_of_false ?_ nofun
    obtain ⟨hlt, hpending, -⟩ := List.findIdx?_eq_some_iff_getElem.mp h
    rw [isPending, Bool.not_eq_true', List.isEmpty_eq_false_iff] at hpending
    simpa only [List.getElem?_eq_getElem hlt, Option.map_some, Option.getD_some,
      ne_eq, List.map_eq_nil_iff] using hpending

/-- **Only the test at a position may have pending artifacts.** -/
def PendingOnlyAt (ts : Tests) (i : Nat) : Prop :=
  ∀ j set, ts.sets[j]? = some set → isPending set = true → j = i

theorem pendingOnlyAt_of_due (h : ts.due = []) (i : Nat) : ts.PendingOnlyAt i := by
  intro j set hset hpending
  rw [due_eq_nil_iff.mp h set (List.mem_of_getElem? hset)] at hpending
  cases hpending

theorem due_fresh (count : Nat) : (fresh count).due = [] := by
  refine due_eq_nil_iff.mpr fun set hset => ?_
  rw [List.eq_of_mem_replicate hset]
  rfl

/-- A change to one test leaves at most that one with pending artifacts, if there was none. -/
theorem exists_pendingOnlyAt_updated (h : ts.due = []) (n : Nat) (f : TestSlots → TestSlots) :
    ∃ i, (ts.updated n f).PendingOnlyAt i := by
  rcases n with _ | i
  · exact ⟨0, pendingOnlyAt_of_due h 0⟩
  · refine ⟨i, fun j set hset hpending => ?_⟩
    by_contra hne
    rw [sets_updated_succ, List.getElem?_modify_ne _ _ (Ne.symm hne)] at hset
    exact hne (pendingOnlyAt_of_due h i j set hset hpending)

/-- **One pass is enough for one test.** -/
theorem due_reconcile (h : ts.PendingOnlyAt i) (s : Submission) (generation : UInt64) :
    (ts.reconcile s generation).1.due = [] := by
  rcases hfind : ts.sets.findIdx? isPending with _ | j
  · simp only [reconcile, hfind]
    exact due_eq_nil_iff.mpr (List.findIdx?_eq_none_iff.mp hfind)
  · simp only [reconcile, hfind]
    obtain ⟨hlt, hpending, -⟩ := List.findIdx?_eq_some_iff_getElem.mp hfind
    obtain rfl : j = i := h j ts.sets[j] (List.getElem?_eq_getElem hlt) hpending
    refine due_eq_nil_iff.mpr fun set hset => ?_
    obtain ⟨k, hk⟩ := List.mem_iff_getElem?.mp hset
    rw [List.getElem?_modify] at hk
    obtain ⟨before, hbefore, rfl⟩ := Option.map_eq_some_iff.mp hk
    split
    · next heq =>
      subst heq
      rw [hbefore, Option.map_some, Option.getD_some, isPending, SlotSet.pending_requestAll]
      rfl
    · next hne => exact Bool.eq_false_iff.mpr fun hk => hne (h k before hbefore hk).symm

end Tests

/-! ### Views -/

namespace View

variable {v : View}

theorem due_eq_nil_iff {s : Submission} (h : v.submission = some s) :
    v.due = [] ↔ v.compilation.isDue s = false ∧ v.tests.due = [] := by
  have hcompilation : v.compilation.due s = [] ↔ v.compilation.isDue s = false := by
    unfold Compilation.due
    split
    · next hdue => exact iff_of_false nofun (by rw [hdue]; exact nofun)
    · next hdue => exact iff_of_true rfl (Bool.eq_false_iff.mpr hdue)
  simp only [due, h, List.append_eq_nil_iff, List.map_eq_nil_iff, hcompilation]

/-- **What an intent does to the tests**: it starts over, or it changes the slots of one test. -/
theorem tests_attempt (v : View) (intent : ViewIntent) :
    (∃ count, (v.attempt intent).tests = Tests.fresh count) ∨
      ∃ n f, (v.attempt intent).tests = v.tests.updated n f := by
  -- the test of number zero does not exist
  have hnone : ∃ n f, v.tests = v.tests.updated n f := ⟨0, id, rfl⟩
  cases intent with
  | load s => exact .inl ⟨s.testsCount, rfl⟩
  | compilation intent => exact .inr hnone
  | test intent =>
    cases intent with
    | reset count => exact .inl ⟨count, rfl⟩
    | toggle n =>
      rw [attempt_toggle]
      exact .inr ⟨n, _, rfl⟩
    | request n k =>
      rw [attempt_request]
      exact .inr ⟨n, _, rfl⟩
    | fulfill n k o =>
      rw [attempt_fulfill]
      exact .inr ⟨n, _, rfl⟩
  | fetched r =>
    rw [attempt_fetched]
    split
    · rcases r.destination with k | ⟨n, k⟩
      · exact .inr hnone
      · dsimp only
        rw [attempt_fulfill]
        exact .inr ⟨n, _, rfl⟩
    · exact .inr hnone

/-- A pass brings a view to rest if at most one test has pending artifacts. -/
theorem due_reconcile {i : Nat} (h : v.submission ≠ none → v.tests.PendingOnlyAt i) :
    v.reconcile.1.due = [] := by
  rcases hs : v.submission with _ | s
  · rw [reconcile_of_none hs, due, hs]
  · rw [due_eq_nil_iff (v.reconcile_frame.1.trans hs)]
    simp only [reconcile, hs]
    have hsome : v.submission ≠ none := by
      rw [hs]
      exact Option.some_ne_none s
    exact ⟨v.compilation.isDue_reconcile s v.generation,
      Tests.due_reconcile (h hsome) s v.generation⟩

/-- **From rest to rest.** Whatever happens to a view at rest, one pass brings it to rest again. -/
theorem due_reconcile_attempt (h : v.due = []) (intent : ViewIntent) :
    (v.attempt intent).reconcile.1.due = [] := by
  rcases v.tests_attempt intent with ⟨count, htests⟩ | ⟨n, f, htests⟩
  · refine due_reconcile (i := 0) fun _ => ?_
    rw [htests]
    exact Tests.pendingOnlyAt_of_due (Tests.due_fresh count) 0
  · by_cases hload : ∃ s, intent = .load s
    · obtain ⟨s, rfl⟩ := hload
      refine due_reconcile (i := 0) fun _ => ?_
      exact Tests.pendingOnlyAt_of_due (Tests.due_fresh s.testsCount) 0
    · -- without a load the submission is what it was, and nothing of it was due
      have hsubmission : (v.attempt intent).submission = v.submission :=
        (v.attempt_frame fun s hs => hload ⟨s, hs⟩).1
      rcases hs : v.submission with _ | s
      · refine due_reconcile (i := 0) fun hsome => ?_
        exact absurd (hsubmission.trans hs) hsome
      · have hdue : v.tests.due = [] := ((due_eq_nil_iff hs).mp h).2
        obtain ⟨i, hi⟩ := Tests.exists_pendingOnlyAt_updated hdue n f
        refine due_reconcile (i := i) fun _ => ?_
        rw [htests]
        exact hi

/-- A pass over a view at rest orders nothing and changes nothing. -/
theorem reconcile_of_due (h : v.due = []) : v.reconcile = (v, []) := by
  rcases hs : v.submission with _ | s
  · exact reconcile_of_none hs
  · obtain ⟨hcompilation, htests⟩ := (due_eq_nil_iff hs).mp h
    have hfind := List.findIdx?_eq_none_iff.mpr (Tests.due_eq_nil_iff.mp htests)
    simp only [reconcile, hs, Compilation.reconcile, hcompilation, Tests.reconcile, hfind,
      Bool.false_eq_true, if_false, List.append_nil]
    rw [← hs]

end View

end JudgeDesk
