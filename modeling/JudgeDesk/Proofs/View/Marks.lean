import Mathlib.Order.Bounds.Basic
import JudgeDesk.Proofs.View.Course
import JudgeDesk.Proofs.View.Rest

/-!
# A pass marks what it orders

Marking an artifact as asked for and ordering it are two things, and a pass of reconciliation does
both. It orders exactly what it marks and changes nothing else, except for the mark of the pair of
the compilation, which is set when the pair is ordered.

* `SlotSet.Waits`, `Tests.Waits` — a test that is shown and has artifacts that were never asked for;
* `Tests.due_of_isLeast`, `Tests.due_of_not_waits` — what is due of the tests belongs to the first
  one that waits;
* `View.marked`, `View.reconcile_eq_marked` — a view in which some artifacts are marked, and that a
  pass comes to one;
* `View.Paired`, `Course.paired_run` — the slots of the pair are marked together with the pair;
* `View.ExactPass`, `Course.exactPass_run` — what a pass does, and that every pass does it.

The slots of the pair have marks of their own, which a pass does not look at: that it marks what was
not marked before is so because these marks always agree with the mark of the pair.
-/

namespace JudgeDesk

/-! ### Tests that wait -/

namespace SlotSet

variable {κ : Type} [Artifact κ] {s : SlotSet κ}

/-- **Whether a set waits**: it is shown, and some artifact of it was never asked for. -/
def Waits (s : SlotSet κ) : Prop := s.shown = true ∧ ∃ k, (s.slot k).requested = false

theorem mem_pending_iff {k : κ} :
    k ∈ s.pending ↔ s.shown = true ∧ (s.slot k).requested = false := by
  unfold pending
  split
  · next h => simp only [List.mem_filter, Artifact.mem_all, true_and, Bool.not_eq_true', h]
  · next h => simp only [List.not_mem_nil, h, false_and, Bool.false_eq_true]

end SlotSet

namespace Tests

variable {ts : Tests} {n : Nat} {set : TestSlots}

/-- **Whether a test waits**, if there is such a test. -/
def Waits (ts : Tests) (n : Nat) : Prop := ∃ set, ts.test n = .ok set ∧ set.Waits

theorem isPending_iff : isPending set = true ↔ set.Waits := by
  rw [isPending, Bool.not_eq_true', List.isEmpty_eq_false_iff_exists_mem]
  simp only [SlotSet.mem_pending_iff, exists_and_left, SlotSet.Waits]

theorem test_succ_eq_ok_iff {i : Nat} : ts.test (i + 1) = .ok set ↔ ts.sets[i]? = some set := by
  rw [← toOption_test_succ]
  rcases ts.test (i + 1) with _ | set' <;> simp only [Except.toOption, reduceCtorEq,
    Except.ok.injEq, Option.some.injEq]

/-- There is no test of number zero. -/
theorem ne_zero_of_test (h : ts.test n = .ok set) : n ≠ 0 := by
  rintro rfl
  cases h

/-- **The first test that waits** is the one whose artifacts are due. -/
theorem due_of_isLeast (hn : IsLeast {n | ts.Waits n} n) (hset : ts.test n = .ok set) :
    ts.due = set.pending.map (Address.test n) := by
  obtain ⟨i, rfl⟩ := Nat.exists_eq_succ_of_ne_zero (ne_zero_of_test hset)
  have hi := test_succ_eq_ok_iff.mp hset
  obtain ⟨hlt, hget⟩ := List.getElem?_eq_some_iff.mp hi
  have hfind : ts.sets.findIdx? isPending = some i := by
    refine List.findIdx?_eq_some_iff_getElem.mpr ⟨hlt, ?_, fun j hj hpending => ?_⟩
    · obtain ⟨set', hset', hwaits⟩ := hn.1
      obtain rfl := Except.ok.inj (hset.symm.trans hset')
      rw [hget]
      exact isPending_iff.mpr hwaits
    · -- an earlier test that has pending artifacts would wait
      have hj' := test_succ_eq_ok_iff.mpr (List.getElem?_eq_getElem (hj.trans hlt))
      exact absurd (hn.2 ⟨_, hj', isPending_iff.mp hpending⟩) (by omega)
  rw [due, hfind]
  simp only [hi, Option.map_some, Option.getD_some]

/-- **If no test waits**, nothing is due of the tests. -/
theorem due_of_not_waits (h : ∀ n, ¬ts.Waits n) : ts.due = [] := by
  refine due_eq_nil_iff.mpr fun set hset => Bool.eq_false_iff.mpr fun hpending => ?_
  obtain ⟨i, hi⟩ := List.mem_iff_getElem?.mp hset
  exact h (i + 1) ⟨set, test_succ_eq_ok_iff.mpr hi, isPending_iff.mp hpending⟩

end Tests

/-! ### Marks -/

/-- A set in which some artifacts are marked as asked for; nothing else is different. -/
def SlotSet.marked {κ : Type} (s : SlotSet κ) (marks : κ → Bool) : SlotSet κ :=
  { s with slot := fun k => { s.slot k with requested := (s.slot k).requested || marks k } }

theorem SlotSet.requestAll_eq_marked {κ : Type} [DecidableEq κ] (s : SlotSet κ) (ks : List κ) :
    s.requestAll ks = s.marked fun k => decide (k ∈ ks) := by
  have hslot : (s.requestAll ks).slot = (s.marked fun k => decide (k ∈ ks)).slot := by
    funext k
    rw [slot_requestAll, marked]
    split
    · next h => simp only [Slot.request, h, decide_true, Bool.or_true]
    · next h => simp only [h, decide_false, Bool.or_false]
  exact congrArg₂ SlotSet.mk (s.shown_requestAll ks) hslot

theorem SlotSet.marked_eq_self {κ : Type} (s : SlotSet κ) {marks : κ → Bool}
    (h : ∀ k, marks k = false) : s.marked marks = s := by
  simp only [marked, h, Bool.or_false]

/-- What a pass does to the pair of the compilation. -/
theorem Compilation.reconcile_fst (c : Compilation) (s : Submission) (generation : UInt64) :
    (c.reconcile s generation).1 =
      { requested := c.requested || c.isDue s
        set := c.set.marked fun k => decide (k ∈ c.due s) } := by
  unfold reconcile due
  split
  · next h =>
    rw [h, Bool.or_true]
    exact congrArg (Compilation.mk true) (SlotSet.requestAll_eq_marked _ _)
  · next h =>
    rw [Bool.eq_false_iff.mpr h, Bool.or_false]
    exact congrArg (Compilation.mk c.requested) (c.set.marked_eq_self fun k => rfl).symm

/-- What a pass does to the tests. -/
theorem Tests.reconcile_fst (ts : Tests) (s : Submission) (generation : UInt64) :
    (ts.reconcile s generation).1 =
      ⟨ts.sets.mapIdx fun i set => set.marked fun k => decide (.test (i + 1) k ∈ ts.due)⟩ := by
  rcases hi : ts.sets.findIdx? isPending with _ | i
  · simp only [reconcile, due, hi, List.not_mem_nil, decide_false]
    refine congrArg Tests.mk (List.ext_getElem? fun j => ?_)
    rw [List.getElem?_mapIdx]
    refine Option.map_id'.symm.trans (Option.map_congr fun set _ => ?_)
    exact (set.marked_eq_self fun k => rfl).symm
  · simp only [reconcile, due, hi]
    refine congrArg Tests.mk (List.ext_getElem? fun j => ?_)
    rw [List.getElem?_modify, List.getElem?_mapIdx]
    refine Option.map_congr fun set hset => ?_
    by_cases h : i = j
    · subst h
      simp only [if_true, SlotSet.requestAll_eq_marked, hset, Option.map_some, Option.getD_some,
        List.mem_map, Address.test.injEq, true_and, exists_eq_right]
    · -- what is due belongs to another test
      have hnot (k : TestArtifact) (ks : List TestArtifact) :
          .test (j + 1) k ∉ ks.map (Address.test (i + 1)) := by
        intro hmem
        obtain ⟨k', -, heq⟩ := List.mem_map.mp hmem
        exact h (Nat.succ.inj (Address.test.inj heq).1)
      rw [if_neg h, set.marked_eq_self fun k => decide_eq_false (hnot k _)]

namespace View

variable {v : View} {d : Address}

/-- **Marks.** A view in which the artifacts at some addresses are marked as asked for, and so is
the pair of the compilation if that is told; nothing else is different. -/
def marked (v : View) (ds : List Address) (pair : Bool) : View :=
  { v with
    compilation :=
      { requested := v.compilation.requested || pair
        set := v.compilation.set.marked fun k => decide (.compilation k ∈ ds) }
    tests :=
      ⟨v.tests.sets.mapIdx fun i set => set.marked fun k => decide (.test (i + 1) k ∈ ds)⟩ }

/-- Whether the slot at an address is marked as asked for, if there is one. -/
def mark? (v : View) (d : Address) : Option Bool := (v.slot? d).map (·.requested)

/-- Marking nothing changes nothing. -/
theorem marked_nil (v : View) : v.marked [] false = v := by
  have hset {κ : Type} (set : SlotSet κ) : (set.marked fun _ => false) = set :=
    set.marked_eq_self fun _ => rfl
  have hsets : (v.tests.sets.mapIdx fun _ set => set) = v.tests.sets := by
    refine List.ext_getElem? fun j => ?_
    rw [List.getElem?_mapIdx, Option.map_id']
  simp only [marked, List.not_mem_nil, decide_false, Bool.or_false, hset, hsets]

/-- **A pass marks what is due**, and the pair of the compilation with its artifacts. -/
theorem reconcile_eq_marked (v : View) :
    v.reconcile.1 = v.marked v.due (v.submission.any v.compilation.isDue) := by
  rcases hs : v.submission with _ | s
  · rw [reconcile_of_none hs, due, hs]
    exact v.marked_nil.symm
  · simp only [reconcile, hs, Compilation.reconcile_fst, Tests.reconcile_fst, marked,
      compilation_mem_due_iff hs, test_mem_due_iff hs, Option.any_some]

/-! ### The pair of the compilation -/

/-- **Paired marks.** The slots of the compilation are marked as asked for together with the
pair. -/
def Paired (v : View) : Prop :=
  ∀ k, (v.compilation.set.slot k).requested = v.compilation.requested

theorem paired_blank : Paired {} := fun _ => rfl

theorem Paired.reconcile (h : v.Paired) : v.reconcile.1.Paired := by
  intro k
  rcases hs : v.submission with _ | s
  · rw [reconcile_of_none hs]
    exact h k
  · have hdue : decide (k ∈ v.compilation.due s) = v.compilation.isDue s := by
      by_cases hd : v.compilation.isDue s = true
      · rw [hd, decide_eq_true (Compilation.mem_due_iff.mpr hd)]
      · rw [Bool.eq_false_iff.mpr hd, decide_eq_false (mt Compilation.mem_due_iff.mp hd)]
    simp only [View.reconcile, hs, Compilation.reconcile_fst, SlotSet.marked, hdue, h k]

theorem Paired.attempt (h : v.Paired) (intent : ViewIntent) : (v.attempt intent).Paired := by
  have hcompilation (i : CompilationIntent) : (v.attempt (.compilation i)).Paired := by
    intro k
    cases i with
    | toggle => exact h k
    | request =>
      have hslot := SlotSet.slot_requestAll Artifact.all v.compilation.set k
      rw [if_pos (Artifact.mem_all k)] at hslot
      exact congrArg Slot.requested hslot
    | fulfill k' o =>
      have hslot := v.compilation.set.slot_fulfill k' k o
      have hrequested : ((v.compilation.set.fulfill k' o).slot k).requested =
          (v.compilation.set.slot k).requested := by
        rw [hslot]
        split
        · exact Slot.requested_fulfill _ o
        · rfl
      exact hrequested.trans (h k)
  have htest (i : TestIntent) : (v.attempt (.test i)).Paired := by
    obtain ⟨tests, heq⟩ := v.exists_attempt_test i
    rw [heq]
    exact h
  cases intent with
  | load s => exact fun _ => rfl
  | compilation i => exact hcompilation i
  | test i => exact htest i
  | fetched r =>
    rw [attempt_fetched]
    split
    · rcases r.destination with k | ⟨n, k⟩
      · exact hcompilation _
      · exact htest _
    · exact h

end View

/-! ### Exact passes -/

/-- Whether an order is for an artifact of a test. -/
def Fetch.isForTest (f : Fetch) : Bool :=
  match f.destination with
  | .compilation _ => false
  | .test _ _ => true

namespace View

variable {v : View} {d : Address} {s : Submission}

/-- **An exact pass** leads from a view to another, gives some orders, and does nothing else. -/
structure ExactPass (v v' : View) (orders : List Fetch) : Prop where
  /-- no two orders are for the same address -/
  nodup : (orders.map (·.destination)).Nodup
  /-- there is an order for exactly the addresses whose slots come to be marked as asked for -/
  marks : ∀ d, d ∈ orders.map (·.destination) ↔
    v.mark? d = some false ∧ v'.mark? d = some true
  /-- nothing else changes, except perhaps the mark of the pair of the compilation -/
  frame : ∃ pair, v' = v.marked (orders.map (·.destination)) pair
  /-- the mark of the pair changes exactly if both of its artifacts are ordered -/
  pair : v'.compilation.requested ≠ v.compilation.requested ↔
    ∀ k, .compilation k ∈ orders.map (·.destination)
  /-- an order is for the submission that is shown, in the current generation -/
  stamps : ∀ f ∈ orders, ∃ s, v.submission = some s ∧ f.submissionId = s.id ∧
    f.generation = v.generation ∧ f.target = f.destination.target s
  /-- without a submission nothing is ordered and nothing changes -/
  idle : v.submission = none → v' = v ∧ orders = []
  /-- the pair is ordered exactly if the submission was compiled, and the pair is shown and was not
  asked for -/
  compilation : ∀ s, v.submission = some s → orders.filter (!·.isForTest) =
    if s.compilationResult.isSome = true ∧ v.compilation.set.shown = true ∧
        v.compilation.requested = false then
      [Fetch.order s v.generation (.compilation .source),
        Fetch.order s v.generation (.compilation .compilationOutput)]
    else []
  /-- of the first test that waits the artifacts are ordered that were never asked for -/
  tests : ∀ s, v.submission = some s → ∀ n set, IsLeast {n | v.tests.Waits n} n →
    v.tests.test n = .ok set → orders.filter (·.isForTest) =
      (Artifact.all.filter fun k => !(set.slot k).requested).map
        fun k => Fetch.order s v.generation (.test n k)
  /-- if no test waits, none of their artifacts are ordered -/
  noTests : (∀ n, ¬v.tests.Waits n) → orders.filter (·.isForTest) = []

/-- What is due is marked by a pass, and was not marked before it. -/
theorem Paired.mem_due_iff (h : v.Paired) :
    d ∈ v.due ↔ v.mark? d = some false ∧ v.reconcile.1.mark? d = some true := by
  have hmark {slot : Slot} (hslot : v.slot? d = some slot) : slot.requested = v.isAsked d := by
    rcases d with k | ⟨n, k⟩
    · obtain rfl := Option.some.inj hslot
      exact h k
    · exact requested_eq_isAsked_test hslot
  constructor
  · intro hd
    obtain ⟨slot, hslot⟩ := exists_slot_of_mem_due hd
    have hbefore := (hmark hslot).trans (isAsked_of_mem_due hd)
    refine ⟨?_, ?_⟩
    · rw [mark?, hslot, Option.map_some, hbefore]
    · rw [mark?, slot?_reconcile, hslot, Option.map_some, Option.map_some, if_pos hd]
      rfl
  · rintro ⟨hbefore, hafter⟩
    obtain ⟨slot, hslot, hfalse⟩ := Option.map_eq_some_iff.mp hbefore
    by_contra hd
    rw [mark?, slot?_reconcile, hslot, Option.map_some, Option.map_some, if_neg hd, hfalse]
      at hafter
    cases hafter

/-- The orders of a pass for artifacts of the compilation, and those for artifacts of tests. -/
theorem filter_isForTest_reconcile (hs : v.submission = some s) :
    v.reconcile.2.filter (·.isForTest) = v.tests.due.map (Fetch.order s v.generation) ∧
      v.reconcile.2.filter (!·.isForTest) =
        ((v.compilation.due s).map Address.compilation).map (Fetch.order s v.generation) := by
  have hcompilation : ∀ f ∈ ((v.compilation.due s).map Address.compilation).map
      (Fetch.order s v.generation), f.isForTest = false := by
    intro f hf
    simp only [List.mem_map, exists_exists_and_eq_and] at hf
    obtain ⟨k, -, rfl⟩ := hf
    rfl
  have htests : ∀ f ∈ v.tests.due.map (Fetch.order s v.generation), f.isForTest = true := by
    intro f hf
    obtain ⟨d, hd, rfl⟩ := List.mem_map.mp hf
    obtain ⟨n, k, -, rfl, -⟩ := Tests.exists_slot_of_mem_due hd
    rfl
  have horders : v.reconcile.2 =
      ((v.compilation.due s).map Address.compilation).map (Fetch.order s v.generation) ++
        v.tests.due.map (Fetch.order s v.generation) := by
    rw [orders_reconcile hs, due, hs, List.map_append]
  rw [horders, List.filter_append, List.filter_append]
  constructor
  · rw [List.filter_eq_nil_iff.mpr fun f hf => by rw [hcompilation f hf]; exact Bool.false_ne_true,
      List.filter_eq_self.mpr htests, List.nil_append]
  · rw [List.filter_eq_self.mpr fun f hf => by rw [hcompilation f hf]; rfl,
      List.filter_eq_nil_iff.mpr fun f hf => by rw [htests f hf]; exact Bool.false_ne_true,
      List.append_nil]

/-- **Every pass is exact** over a view whose pair is marked with its slots. -/
theorem Paired.exactPass (h : v.Paired) : v.ExactPass v.reconcile.1 v.reconcile.2 where
  nodup := by
    rw [map_destination_reconcile]
    exact v.nodup_due
  marks d := by
    rw [map_destination_reconcile]
    exact h.mem_due_iff
  frame := by
    rw [map_destination_reconcile]
    exact ⟨_, v.reconcile_eq_marked⟩
  pair := by
    rw [map_destination_reconcile]
    rcases hs : v.submission with _ | s
    · simp only [reconcile_of_none hs, due, hs, ne_eq, not_true_eq_false, List.not_mem_nil,
        false_iff]
      exact fun hall => hall .source
    · have hdue : (∀ k, .compilation k ∈ v.due) ↔ v.compilation.isDue s = true := by
        simp only [compilation_mem_due_iff hs, Compilation.mem_due_iff]
        exact ⟨fun hall => hall .source, fun hpair _ => hpair⟩
      rw [hdue, reconcile_eq_marked, hs, Option.any_some, marked]
      by_cases hpair : v.compilation.isDue s = true
      · simp only [hpair, Compilation.requested_of_isDue hpair, Bool.or_true, ne_eq,
          Bool.true_eq_false, not_false_eq_true]
      · simp only [hpair, Bool.or_false, ne_eq, not_true_eq_false, Bool.false_eq_true]
  stamps f hf := by
    obtain ⟨-, s, hs, heq⟩ := eq_order_of_mem_reconcile hf
    rw [heq]
    exact ⟨s, hs, rfl, rfl, rfl⟩
  idle hs := by
    rw [reconcile_of_none hs]
    exact ⟨rfl, rfl⟩
  compilation s hs := by
    rw [(filter_isForTest_reconcile hs).2]
    simp only [Compilation.due, Compilation.isDue, Bool.and_eq_true, Bool.not_eq_true', and_assoc]
    split <;> rfl
  tests s hs n set hn hset := by
    obtain ⟨set', hset', hshown, -⟩ := hn.1
    obtain rfl := Except.ok.inj (hset.symm.trans hset')
    rw [(filter_isForTest_reconcile hs).1, Tests.due_of_isLeast hn hset, SlotSet.pending,
      if_pos hshown, List.map_map]
    rfl
  noTests hnone := by
    rcases hs : v.submission with _ | s
    · rw [reconcile_of_none hs]
      rfl
    · rw [(filter_isForTest_reconcile hs).1, Tests.due_of_not_waits hnone, List.map_nil]

end View

namespace Course

theorem paired_run (steps : List ViewStep) : (run {} steps).view.Paired := by
  induction steps using List.reverseRecOn with
  | nil => exact View.paired_blank
  | append_singleton steps step ih =>
    rw [run_concat]
    rcases step_cases (run {} steps) step with ⟨s, -, heq⟩ | ⟨-, heq⟩ | ⟨intent, -, -, hview, -⟩
    · rw [heq]
      exact fun _ => rfl
    · rw [heq]
      exact ih.reconcile
    · rw [hview]
      exact ih.attempt intent

/-- **Every pass marks exactly what it orders**, whatever happened to the view before. -/
theorem exactPass_run (steps : List ViewStep) :
    (run {} steps).view.ExactPass (run {} steps).view.reconcile.1
      (run {} steps).view.reconcile.2 :=
  (paired_run steps).exactPass

end Course

end JudgeDesk
