import Mathlib.Data.List.Nodup
import JudgeDesk.Proofs.View.Marks

/-!
# Passes drain a view

A pass of reconciliation orders the artifacts of one test only. The tests that wait form a queue, by
their numbers, and every pass serves the first of them and takes it off: so pass after pass every
test that waits is served, once and in its turn, and when the queue is empty nothing happens any
more.

* `Tests.Batch`, `Tests.queue` — the tests that wait, with what they wait for;
* `Tests.mem_queue_iff`, `Tests.pairwise_queue` — each of them is in the queue, by its number;
* `Tests.due_eq_addresses_head`, `Tests.queue_reconcile` — a pass serves the first and drops it;
* `View.passed`, `View.due_passed` — a view after many passes, and what is due then;
* `View.Drains`, `View.drains` — what many passes come to, and that they do.
-/

namespace JudgeDesk

namespace Tests

/-- **A batch**: what a test that waits will have ordered. -/
structure Batch where
  /-- the number of the test -/
  test : Nat
  /-- its pending artifacts, in order -/
  artifacts : List TestArtifact
  deriving DecidableEq, Repr

/-- The addresses of a batch. -/
def Batch.addresses (b : Batch) : List Address := b.artifacts.map (Address.test b.test)

/-- The batches of some tests, the first of which has a given number. -/
def queueFrom : Nat → List TestSlots → List Batch
  | _, [] => []
  | n, set :: rest =>
    if isPending set then ⟨n, set.pending⟩ :: queueFrom (n + 1) rest else queueFrom (n + 1) rest

/-- **The queue**: the batches of all tests that wait, by their numbers. -/
def queue (ts : Tests) : List Batch := queueFrom 1 ts.sets

variable {ts : Tests} {n : Nat} {b : Batch}

/-! ### What is in the queue -/

theorem mem_queueFrom_iff {sets : List TestSlots} :
    b ∈ queueFrom n sets ↔
      ∃ i set, sets[i]? = some set ∧ set.Waits ∧ b = ⟨n + i, set.pending⟩ := by
  induction sets generalizing n with
  | nil => simp only [queueFrom, List.not_mem_nil, List.getElem?_nil, reduceCtorEq, false_and,
      exists_false]
  | cons set rest ih =>
    -- the set in front has position zero, and each of the others one position more than before
    have hsplit : (∃ i set', (set :: rest)[i]? = some set' ∧ set'.Waits ∧
          b = ⟨n + i, set'.pending⟩) ↔
        (set.Waits ∧ b = ⟨n, set.pending⟩) ∨ b ∈ queueFrom (n + 1) rest := by
      rw [ih, ← Nat.or_exists_add_one]
      simp only [List.getElem?_cons_zero, Option.some.injEq, exists_eq_left', Nat.add_zero,
        List.getElem?_cons_succ, Nat.add_right_comm, Nat.add_assoc]
    rw [hsplit, queueFrom, ← isPending_iff]
    split
    · next h => simp only [List.mem_cons, h, true_and]
    · next h => simp only [h, Bool.false_eq_true, false_and, false_or]

/-- **The tests in the queue are those that wait**, with their pending artifacts. -/
theorem mem_queue_iff :
    b ∈ ts.queue ↔ ∃ set, ts.test b.test = .ok set ∧ set.Waits ∧ b.artifacts = set.pending := by
  rw [queue, mem_queueFrom_iff]
  constructor
  · rintro ⟨i, set, hset, hwaits, rfl⟩
    rw [← test_succ_eq_ok_iff, Nat.add_comm] at hset
    exact ⟨set, hset, hwaits, rfl⟩
  · rintro ⟨set, hset, hwaits, hartifacts⟩
    obtain ⟨i, hi⟩ := Nat.exists_eq_add_one_of_ne_zero (ne_zero_of_test hset)
    rw [hi] at hset
    refine ⟨i, set, test_succ_eq_ok_iff.mp hset, hwaits, ?_⟩
    rw [← hartifacts, Nat.add_comm, ← hi]

theorem pairwise_queueFrom (n : Nat) (sets : List TestSlots) :
    (queueFrom n sets).Pairwise (·.test < ·.test) := by
  induction sets generalizing n with
  | nil => exact List.Pairwise.nil
  | cons set rest ih =>
    rw [queueFrom]
    split
    · refine List.pairwise_cons.mpr ⟨fun b hb => ?_, ih (n + 1)⟩
      obtain ⟨i, set', -, -, rfl⟩ := mem_queueFrom_iff.mp hb
      exact Nat.lt_of_lt_of_le (Nat.lt_succ_self n) (Nat.le_add_right _ _)
    · exact ih (n + 1)

/-- **The queue goes by the numbers of the tests.** -/
theorem pairwise_queue (ts : Tests) : ts.queue.Pairwise (·.test < ·.test) :=
  pairwise_queueFrom 1 ts.sets

/-! ### What a pass does to the queue -/

/-- Tests in front that do not wait are not in the queue. -/
theorem queueFrom_append {front : List TestSlots} (h : ∀ set ∈ front, isPending set = false)
    (rest : List TestSlots) :
    queueFrom n (front ++ rest) = queueFrom (n + front.length) rest := by
  induction front generalizing n with
  | nil => rfl
  | cons set front ih =>
    have hset := h set List.mem_cons_self
    have hfront := fun set' hset' => h set' (List.mem_cons_of_mem set hset')
    rw [List.cons_append, queueFrom, hset, if_neg Bool.false_ne_true, ih hfront,
      List.length_cons, Nat.add_right_comm, Nat.add_assoc]

theorem queueFrom_of_not_pending {sets : List TestSlots}
    (h : ∀ set ∈ sets, isPending set = false) : queueFrom n sets = [] := by
  have happend := queueFrom_append (n := n) h []
  rwa [List.append_nil] at happend

/-- **What a pass does to the tests**: none of them waits and nothing happens, or the first that
waits has its pending artifacts ordered. -/
theorem reconcile_cases (ts : Tests) :
    ((∀ set ∈ ts.sets, isPending set = false) ∧ ts.due = [] ∧
      ∀ s generation, (ts.reconcile s generation).1 = ts) ∨
    ∃ front set rest, ts.sets = front ++ set :: rest ∧
      (∀ before ∈ front, isPending before = false) ∧ isPending set = true ∧
      ts.due = set.pending.map (Address.test (front.length + 1)) ∧
      ∀ s generation,
        (ts.reconcile s generation).1 = ⟨front ++ set.requestAll set.pending :: rest⟩ := by
  -- the first test that waits, if any does, is found by its position
  rcases hi : ts.sets.findIdx? isPending with _ | i
  · refine .inl ⟨List.findIdx?_eq_none_iff.mp hi, ?_, fun s generation => ?_⟩
    · rw [due, hi]
    · simp only [reconcile, hi]
  · obtain ⟨hlt, hpending, hfirst⟩ := List.findIdx?_eq_some_iff_getElem.mp hi
    have hget := List.getElem?_eq_getElem hlt
    have hlength : (ts.sets.take i).length = i := List.length_take_of_le hlt.le
    refine .inr ⟨ts.sets.take i, ts.sets[i], ts.sets.drop (i + 1), ?_, fun before hmem => ?_,
      hpending, ?_, fun s generation => ?_⟩
    · rw [← List.drop_eq_getElem_cons hlt, List.take_append_drop]
    · obtain ⟨j, hj, rfl⟩ := List.mem_take_iff_getElem.mp hmem
      exact Bool.eq_false_iff.mpr (hfirst j (Nat.lt_min.mp hj).1)
    · simp only [due, hi, hget, hlength, Option.map_some, Option.getD_some]
    · simp only [reconcile, hi, hget, Option.map_some, Option.getD_some,
        List.modify_eq_take_cons_drop hlt]

/-- **What is due of the tests** is the first batch of the queue. -/
theorem due_eq_addresses_head (ts : Tests) :
    ts.due = (ts.queue.head?.map Batch.addresses).getD [] := by
  rcases ts.reconcile_cases with
    ⟨hnone, hdue, -⟩ | ⟨front, set, rest, hsets, hfront, hpending, hdue, -⟩
  · rw [hdue, queue, queueFrom_of_not_pending hnone]
    rfl
  · rw [hdue, queue, hsets, queueFrom_append hfront, queueFrom, if_pos hpending, Nat.add_comm]
    rfl

/-- **A pass takes the first batch off the queue.** -/
theorem queue_reconcile (ts : Tests) (s : Submission) (generation : UInt64) :
    (ts.reconcile s generation).1.queue = ts.queue.tail := by
  rcases ts.reconcile_cases with
    ⟨hnone, -, heq⟩ | ⟨front, set, rest, hsets, hfront, hpending, -, heq⟩
  · rw [heq, queue, queueFrom_of_not_pending hnone]
    rfl
  · -- the test that was served does not wait any more, and those behind it are as they were
    have hserved : isPending (set.requestAll set.pending) = false := by
      rw [isPending, SlotSet.pending_requestAll]
      rfl
    rw [heq, queue, queue, hsets, queueFrom_append hfront, queueFrom_append hfront, queueFrom,
      queueFrom, hserved, if_neg Bool.false_ne_true, if_pos hpending, List.tail_cons]

/-! ### The addresses of all batches -/

theorem nodup_addresses (ts : Tests) : (ts.queue.flatMap Batch.addresses).Nodup := by
  refine List.nodup_flatMap.mpr ⟨fun b hb => ?_, ts.pairwise_queue.imp fun {b b'} hlt => ?_⟩
  · obtain ⟨set, -, -, hartifacts⟩ := mem_queue_iff.mp hb
    rw [Batch.addresses, hartifacts]
    exact SlotSet.nodup_pending.map fun k k' h => (Address.test.inj h).2
  · -- batches of different tests have no address in common
    intro d hd hd'
    obtain ⟨k, -, rfl⟩ := List.mem_map.mp hd
    obtain ⟨k', -, heq⟩ := List.mem_map.mp hd'
    exact hlt.ne' (Address.test.inj heq).1

theorem test_mem_addresses_iff {k : TestArtifact} :
    .test n k ∈ ts.queue.flatMap Batch.addresses ↔
      ∃ set, ts.test n = .ok set ∧ k ∈ set.pending := by
  simp only [List.mem_flatMap, Batch.addresses, List.mem_map]
  constructor
  · rintro ⟨b, hb, k', hk, heq⟩
    obtain ⟨set, hset, -, hartifacts⟩ := mem_queue_iff.mp hb
    obtain ⟨rfl, rfl⟩ := Address.test.inj heq
    exact ⟨set, hset, hartifacts ▸ hk⟩
  · rintro ⟨set, hset, hk⟩
    obtain ⟨hshown, hrequested⟩ := SlotSet.mem_pending_iff.mp hk
    exact ⟨⟨n, set.pending⟩, mem_queue_iff.mpr ⟨set, hset, ⟨hshown, k, hrequested⟩, rfl⟩, k, hk,
      rfl⟩

theorem compilation_not_mem_addresses (ts : Tests) (k : CompilationArtifact) :
    .compilation k ∉ ts.queue.flatMap Batch.addresses := by
  simp only [List.mem_flatMap, Batch.addresses, List.mem_map, reduceCtorEq, and_false,
    exists_false, not_false_eq_true]

end Tests

namespace View

variable {v : View} {s : Submission}

/-! ### Many passes -/

/-- **The view after so many passes.** -/
def passed (v : View) : Nat → View
  | 0 => v
  | k + 1 => (v.passed k).reconcile.1

theorem passed_frame (v : View) (k : Nat) :
    (v.passed k).submission = v.submission ∧ (v.passed k).generation = v.generation := by
  induction k with
  | zero => exact ⟨rfl, rfl⟩
  | succ k ih =>
    obtain ⟨hsubmission, hgeneration⟩ := (v.passed k).reconcile_frame
    exact ⟨hsubmission.trans ih.1, hgeneration.trans ih.2⟩

/-- Every pass takes one batch off the queue. -/
theorem queue_passed (hs : v.submission = some s) (k : Nat) :
    (v.passed k).tests.queue = v.tests.queue.drop k := by
  induction k with
  | zero => exact List.drop_zero.symm
  | succ k ih =>
    have hsubmission := (v.passed_frame k).1.trans hs
    rw [passed, ← List.tail_drop, ← ih]
    simp only [reconcile, hsubmission]
    exact Tests.queue_reconcile _ s _

/-- The pair of the compilation is not due after the first pass. -/
theorem compilation_due_passed (hs : v.submission = some s) (k : Nat) :
    (v.passed (k + 1)).compilation.due s = [] := by
  have hsubmission := (v.passed_frame k).1.trans hs
  have hdue := (v.passed k).compilation.isDue_reconcile s (v.passed k).generation
  simp only [passed, reconcile, hsubmission, Compilation.due, hdue, Bool.false_eq_true, if_false]

/-- **What is due after so many passes**: the next batch of the queue, and before the first pass
what is due of the compilation. -/
theorem due_passed (hs : v.submission = some s) (k : Nat) :
    (v.passed k).due =
      (if k = 0 then (v.compilation.due s).map Address.compilation else []) ++
        ((v.tests.queue[k]?).map Tests.Batch.addresses).getD [] := by
  rw [due, (v.passed_frame k).1.trans hs]
  dsimp only
  rw [Tests.due_eq_addresses_head, queue_passed hs, List.head?_drop]
  rcases k with _ | k
  · rfl
  · rw [compilation_due_passed hs, if_neg (Nat.succ_ne_zero k), List.map_nil]

/-- The orders of so many passes, one pass after the other. -/
def ordersOf (v : View) (passes : Nat) : List Fetch :=
  (List.range passes).flatMap fun k => (v.passed k).reconcile.2

/-- **What some passes order**, if there is at least one: what is due of the compilation, and as
many batches of the queue. -/
theorem destinations_ordersOf (hs : v.submission = some s) (k : Nat) :
    (v.ordersOf (k + 1)).map (·.destination) =
      (v.compilation.due s).map Address.compilation ++
        (v.tests.queue.take (k + 1)).flatMap Tests.Batch.addresses := by
  have hbatch (k : Nat) : ((v.tests.queue[k]?).map Tests.Batch.addresses).getD [] =
      (v.tests.queue[k]?).toList.flatMap Tests.Batch.addresses := by
    rcases v.tests.queue[k]? with _ | b
    · rfl
    · exact (List.flatMap_singleton _ _).symm
  have hnext (k : Nat) : (v.ordersOf (k + 1)).map (·.destination) =
      (v.ordersOf k).map (·.destination) ++ (v.passed k).due := by
    rw [ordersOf, List.range_succ, List.flatMap_append, List.flatMap_singleton, List.map_append,
      map_destination_reconcile]
    rfl
  -- by the number of passes, from the first, which is the one that orders the pair
  induction k with
  | zero =>
    rw [hnext, due_passed hs, hbatch, List.take_add_one]
    rfl
  | succ k ih =>
    rw [hnext, ih, due_passed hs, hbatch, List.take_add_one (i := k + 1), List.flatMap_append,
      if_neg (Nat.succ_ne_zero k), List.nil_append, List.append_assoc]

/-- **Whether an artifact waits** at an address: it is shown and was never asked for, if it is of a
test; and the artifacts of the compilation wait together. -/
def Waits (v : View) : Address → Prop
  | .compilation _ => ∃ s, v.submission = some s ∧ v.compilation.isDue s = true
  | .test n k => ∃ set, v.tests.test n = .ok set ∧ k ∈ set.pending

/-- **Draining.** What many passes over a view of a submission come to. -/
structure Drains (v : View) (s : Submission) : Prop where
  /-- the queue has the tests that wait, with the artifacts that were never asked for -/
  queue : ∀ b, b ∈ v.tests.queue ↔ ∃ set, v.tests.test b.test = .ok set ∧ set.Waits ∧
    b.artifacts = Artifact.all.filter fun k => !(set.slot k).requested
  /-- the queue goes by the numbers of the tests -/
  inOrder : v.tests.queue.Pairwise (·.test < ·.test)
  /-- a pass orders the next batch of the queue, and the first pass the pair of the compilation
  besides if it is due -/
  orders : ∀ k, (v.passed k).reconcile.2 =
    ((if k = 0 then (v.compilation.due s).map Address.compilation else []) ++
      ((v.tests.queue[k]?).map Tests.Batch.addresses).getD []).map (Fetch.order s v.generation)
  /-- after as many passes as there are batches, and at least one, nothing happens any more -/
  rest : ∀ k, max v.tests.queue.length 1 ≤ k → (v.passed k).reconcile = (v.passed k, [])
  /-- by then no artifact was ordered twice -/
  once : ∀ k, max v.tests.queue.length 1 ≤ k → ((v.ordersOf k).map (·.destination)).Nodup
  /-- by then those artifacts were ordered that waited at first, and no others -/
  complete : ∀ k, max v.tests.queue.length 1 ≤ k →
    ∀ d, d ∈ (v.ordersOf k).map (·.destination) ↔ v.Waits d

/-- What so many passes order as there are batches, and at least one. -/
theorem destinations_ordersOf_of_le (hs : v.submission = some s) {k : Nat}
    (hk : max v.tests.queue.length 1 ≤ k) :
    (v.ordersOf k).map (·.destination) =
      (v.compilation.due s).map Address.compilation ++
        v.tests.queue.flatMap Tests.Batch.addresses := by
  obtain ⟨hlength, hone⟩ := Nat.max_le.mp hk
  obtain ⟨k, rfl⟩ := Nat.exists_eq_add_of_le' hone
  rw [destinations_ordersOf hs, List.take_of_length_le hlength]

/-- **Passes drain a view**, whatever is shown and however much of it was asked for already. -/
theorem drains (hs : v.submission = some s) : v.Drains s where
  queue b := by
    rw [Tests.mem_queue_iff]
    refine exists_congr fun set => and_congr_right fun _ => and_congr_right fun hwaits => ?_
    rw [SlotSet.pending, if_pos hwaits.1]
  inOrder := v.tests.pairwise_queue
  orders k := by
    obtain ⟨hsubmission, hgeneration⟩ := v.passed_frame k
    rw [orders_reconcile (hsubmission.trans hs), due_passed hs, hgeneration]
  rest k hk := by
    obtain ⟨hlength, hone⟩ := Nat.max_le.mp hk
    refine reconcile_of_due ?_
    rw [due_passed hs, if_neg (Nat.one_le_iff_ne_zero.mp hone), List.getElem?_eq_none hlength]
    rfl
  once k hk := by
    rw [destinations_ordersOf_of_le hs hk]
    refine List.nodup_append'.mpr ⟨?_, v.tests.nodup_addresses, fun d hd hd' => ?_⟩
    · exact Compilation.nodup_due.map fun k k' h => Address.compilation.inj h
    · obtain ⟨k, -, rfl⟩ := List.mem_map.mp hd
      exact v.tests.compilation_not_mem_addresses k hd'
  complete k hk d := by
    rw [destinations_ordersOf_of_le hs hk, List.mem_append]
    rcases d with k | ⟨n, k⟩
    · simp only [v.tests.compilation_not_mem_addresses, or_false, List.mem_map,
        Address.compilation.injEq, exists_eq_right, Compilation.mem_due_iff, Waits, hs,
        Option.some.injEq, exists_eq_left']
    · simp only [List.mem_map, reduceCtorEq, and_false, exists_false, false_or,
        Tests.test_mem_addresses_iff, Waits]

end View

/-- A submission that has the results of four tests. -/
def Submission.ofFourTests : Submission :=
  { Submission.ofOneTest 7 with
    testResults := [1, 2, 3, 4].map fun n => { testNumber := n, verdict := .accepted } }

namespace Course

/-- A run that leaves the pair of the compilation and three of four tests waiting, one of them not
for all of its artifacts. -/
def leftWaiting : List ViewStep :=
  [.intent (.load .ofFourTests), .intent (.test (.toggle 4)), .intent (.test (.toggle 1)),
    .intent (.test (.request 3 .answer)), .intent (.test (.toggle 3)),
    .intent (.compilation .toggle)]

theorem drains_leftWaiting :
    (run {} leftWaiting).view.tests.queue =
        [⟨1, Artifact.all⟩, ⟨3, [.input, .output, .checker, .stderr]⟩, ⟨4, Artifact.all⟩] ∧
      (run {} leftWaiting).view.Drains .ofFourTests :=
  ⟨by decide, View.drains rfl⟩

end Course

end JudgeDesk
