import Mathlib.Data.List.Nodup
import JudgeDesk.Proofs.View.Slots

/-!
# What a pass of reconciliation orders

The artifacts that are *due* are those that the next pass asks for: the pair of the compilation if
it is due, and the pending artifacts of the first test that has any. A pass orders exactly these,
and marks exactly these as asked for.

* `View.due` — the addresses of the artifacts that are due;
* `View.orders_reconcile` — the orders of a pass, one for each of them;
* `View.slot?_reconcile`, `View.isAsked_reconcile` — the marks of a pass;
* `View.nodup_due`, `View.isAsked_of_mem_due` — nothing is due twice, nor after it was asked for.
-/

namespace JudgeDesk

/-! ### The compilation -/

namespace Compilation

variable {c : Compilation} {s : Submission}

/-- The artifacts of the compilation that are due: both or none. -/
def due (c : Compilation) (s : Submission) : List CompilationArtifact :=
  if c.isDue s then Artifact.all else []

theorem mem_due_iff {k : CompilationArtifact} : k ∈ c.due s ↔ c.isDue s = true := by
  unfold due
  split
  · next h => exact iff_of_true (Artifact.mem_all k) h
  · next h => exact iff_of_false List.not_mem_nil h

theorem nodup_due : (c.due s).Nodup := by
  unfold due
  split
  · exact Artifact.nodup_all
  · exact List.nodup_nil

theorem orders_reconcile (generation : UInt64) :
    (c.reconcile s generation).2 =
      ((c.due s).map Address.compilation).map (Fetch.order s generation) := by
  unfold reconcile due
  split
  · rw [List.map_map]
    rfl
  · rfl

theorem slot_reconcile (generation : UInt64) (k : CompilationArtifact) :
    (c.reconcile s generation).1.set.slot k =
      if k ∈ c.due s then (c.set.slot k).request else c.set.slot k := by
  unfold reconcile
  by_cases h : c.isDue s = true
  · rw [if_pos h, if_pos (mem_due_iff.mpr h)]
    exact (SlotSet.slot_requestAll _ _ _).trans (if_pos (Artifact.mem_all k))
  · rw [if_neg h, if_neg (mt mem_due_iff.mp h)]

theorem requested_reconcile (generation : UInt64) :
    (c.reconcile s generation).1.requested = (c.requested || c.isDue s) := by
  unfold reconcile
  by_cases h : c.isDue s = true
  · rw [if_pos h, h, Bool.or_true]
    rfl
  · rw [if_neg h, Bool.eq_false_iff.mpr h, Bool.or_false]

theorem requested_of_isDue (h : c.isDue s = true) : c.requested = false := by
  unfold isDue at h
  simpa using (Bool.and_eq_true_iff.mp h).2

end Compilation

/-! ### Tests -/

namespace SlotSet

variable {κ : Type} [Artifact κ] {s : SlotSet κ}

theorem requested_of_mem_pending {k : κ} (h : k ∈ s.pending) : (s.slot k).requested = false := by
  unfold pending at h
  split at h
  · simpa using (List.mem_filter.mp h).2
  · cases h

theorem nodup_pending : s.pending.Nodup := by
  unfold pending
  split
  · exact Artifact.nodup_all.filter _
  · exact List.nodup_nil

end SlotSet

namespace Tests

variable {ts : Tests}

/-- The artifacts of tests that are due: those pending of the first test that has any. -/
def due (ts : Tests) : List Address :=
  match ts.sets.findIdx? isPending with
  | none => []
  | some i => (((ts.sets[i]?).map SlotSet.pending).getD []).map (Address.test (i + 1))

/-- What is due belongs to one test of the list, and was not asked for. -/
theorem exists_slot_of_mem_due {d : Address} (h : d ∈ ts.due) :
    ∃ n k slot, d = .test n k ∧ ts.slot? n k = some slot ∧ slot.requested = false := by
  unfold due at h
  split at h
  · cases h
  · next i _ =>
    obtain ⟨k, hk, rfl⟩ := List.mem_map.mp h
    rcases hset : ts.sets[i]? with _ | set
    · rw [hset] at hk
      cases hk
    · rw [hset] at hk
      refine ⟨i + 1, k, set.slot k, rfl, ?_, SlotSet.requested_of_mem_pending hk⟩
      rw [slot?_succ, hset, Option.map_some]

theorem nodup_due : ts.due.Nodup := by
  unfold due
  split
  · exact List.nodup_nil
  · next i _ =>
    refine List.Nodup.map (fun k k' h => (Address.test.inj h).2) ?_
    rcases ts.sets[i]? with _ | set
    · exact List.nodup_nil
    · exact SlotSet.nodup_pending

theorem orders_reconcile (s : Submission) (generation : UInt64) :
    (ts.reconcile s generation).2 = ts.due.map (Fetch.order s generation) := by
  rcases hi : ts.sets.findIdx? isPending with _ | i
  · simp only [reconcile, due, hi, List.map_nil]
  · simp only [reconcile, due, hi, List.map_map]
    rfl

theorem slot?_reconcile (s : Submission) (generation : UInt64) (n : Nat) (k : TestArtifact) :
    (ts.reconcile s generation).1.slot? n k =
      (ts.slot? n k).map fun slot => if .test n k ∈ ts.due then slot.request else slot := by
  rcases hi : ts.sets.findIdx? isPending with _ | i
  · simp only [reconcile, due, hi, List.not_mem_nil, if_false, Option.map_id']
  · simp only [reconcile, due, hi]
    rcases n with _ | j
    · rfl
    · rw [slot?_succ, slot?_succ, List.getElem?_modify, Option.map_eq_map, Option.map_map,
        Option.map_map]
      refine Option.map_congr fun set hset => ?_
      by_cases h : i = j
      · -- the test that is asked for: those of its artifacts are due that are pending
        subst h
        simp only [Function.comp_apply, if_true, hset, Option.map_some, Option.getD_some,
          SlotSet.slot_requestAll, List.mem_map, Address.test.injEq, true_and, exists_eq_right]
      · have hnot (ks : List TestArtifact) : .test (j + 1) k ∉ ks.map (Address.test (i + 1)) := by
          intro hmem
          obtain ⟨k', -, heq⟩ := List.mem_map.mp hmem
          exact h (Nat.succ.inj (Address.test.inj heq).1)
        simp only [Function.comp_apply, if_neg h, if_neg (hnot _)]

end Tests

/-! ### Views -/

namespace View

variable {v : View} {d : Address}

/-- **What is due.** The addresses of the artifacts that the next pass asks for, in order. -/
def due (v : View) : List Address :=
  match v.submission with
  | none => []
  | some s => (v.compilation.due s).map Address.compilation ++ v.tests.due

theorem reconcile_of_none (h : v.submission = none) : v.reconcile = (v, []) := by
  rw [reconcile, h]

theorem reconcile_frame (v : View) :
    v.reconcile.1.submission = v.submission ∧ v.reconcile.1.generation = v.generation := by
  unfold reconcile
  split
  · exact ⟨rfl, rfl⟩
  · exact ⟨rfl, rfl⟩

/-- **The orders of a pass**: one for each artifact that is due, stamped with the submission and the
generation of the view. -/
theorem orders_reconcile {s : Submission} (h : v.submission = some s) :
    v.reconcile.2 = v.due.map (Fetch.order s v.generation) := by
  simp only [reconcile, due, h]
  rw [Compilation.orders_reconcile, Tests.orders_reconcile, List.map_append]

/-- Every order of a pass is the order for an artifact that is due. -/
theorem eq_order_of_mem_reconcile {f : Fetch} (h : f ∈ v.reconcile.2) :
    f.destination ∈ v.due ∧
      ∃ s, v.submission = some s ∧ f = Fetch.order s v.generation f.destination := by
  rcases hs : v.submission with _ | s
  · rw [reconcile_of_none hs] at h
    cases h
  · rw [orders_reconcile hs] at h
    obtain ⟨d, hd, rfl⟩ := List.mem_map.mp h
    exact ⟨hd, s, rfl, rfl⟩

theorem map_destination_reconcile (v : View) :
    v.reconcile.2.map (·.destination) = v.due := by
  rcases hs : v.submission with _ | s
  · rw [reconcile_of_none hs, due, hs]
    rfl
  · rw [orders_reconcile hs, List.map_map]
    exact List.map_id _

theorem compilation_mem_due_iff {s : Submission} (h : v.submission = some s)
    {k : CompilationArtifact} : .compilation k ∈ v.due ↔ k ∈ v.compilation.due s := by
  simp only [due, h, List.mem_append, List.mem_map, Address.compilation.injEq, exists_eq_right]
  refine or_iff_left fun hmem => ?_
  obtain ⟨n, k', slot, heq, -⟩ := Tests.exists_slot_of_mem_due hmem
  cases heq

theorem test_mem_due_iff {s : Submission} (h : v.submission = some s) {n : Nat}
    {k : TestArtifact} : .test n k ∈ v.due ↔ .test n k ∈ v.tests.due := by
  simp only [due, h, List.mem_append, List.mem_map, reduceCtorEq, and_false, exists_false,
    false_or]

/-- **Nothing is due twice.** -/
theorem nodup_due (v : View) : v.due.Nodup := by
  unfold due
  split
  · exact List.nodup_nil
  · next s _ =>
    refine List.nodup_append.mpr ⟨?_, Tests.nodup_due, ?_⟩
    · exact Compilation.nodup_due.map fun k k' h => Address.compilation.inj h
    · rintro d hd _ hd' rfl
      obtain ⟨k, -, rfl⟩ := List.mem_map.mp hd
      obtain ⟨n, k', slot, heq, -⟩ := Tests.exists_slot_of_mem_due hd'
      cases heq

/-- **A pass marks what it orders**, and no other slot changes. -/
theorem slot?_reconcile (v : View) (d : Address) :
    v.reconcile.1.slot? d =
      (v.slot? d).map fun slot => if d ∈ v.due then slot.request else slot := by
  rcases hs : v.submission with _ | s
  · rw [reconcile_of_none hs]
    simp only [due, hs, List.not_mem_nil, if_false, Option.map_id']
  · rcases d with k | ⟨n, k⟩
    · simp only [compilation_mem_due_iff hs, reconcile, hs]
      exact congrArg some (Compilation.slot_reconcile v.generation k)
    · simp only [test_mem_due_iff hs, reconcile, hs]
      exact Tests.slot?_reconcile s v.generation n k

/-- A slot after a pass is one that was there before, marked if it was due. -/
theorem exists_of_slot?_reconcile {slot : Slot} (h : v.reconcile.1.slot? d = some slot) :
    ∃ before, v.slot? d = some before ∧ slot = if d ∈ v.due then before.request else before := by
  rw [slot?_reconcile, Option.map_eq_some_iff] at h
  obtain ⟨before, hbefore, heq⟩ := h
  exact ⟨before, hbefore, heq.symm⟩

/-- What is due was not asked for. -/
theorem isAsked_of_mem_due (h : d ∈ v.due) : v.isAsked d = false := by
  rcases hs : v.submission with _ | s
  · simp only [due, hs, List.not_mem_nil] at h
  · rcases d with k | ⟨n, k⟩
    · rw [compilation_mem_due_iff hs, Compilation.mem_due_iff] at h
      exact Compilation.requested_of_isDue h
    · rw [test_mem_due_iff hs] at h
      obtain ⟨n', k', slot, heq, hslot, hreq⟩ := Tests.exists_slot_of_mem_due h
      obtain ⟨rfl, rfl⟩ := Address.test.inj heq
      rw [isAsked, hslot, Option.any_some, hreq]

/-- There is a slot for what is due. -/
theorem exists_slot_of_mem_due (h : d ∈ v.due) : ∃ slot, v.slot? d = some slot := by
  rcases hs : v.submission with _ | s
  · simp only [due, hs, List.not_mem_nil] at h
  · rcases d with k | ⟨n, k⟩
    · exact ⟨_, rfl⟩
    · rw [test_mem_due_iff hs] at h
      obtain ⟨n', k', slot, heq, hslot, -⟩ := Tests.exists_slot_of_mem_due h
      obtain ⟨rfl, rfl⟩ := Address.test.inj heq
      exact ⟨slot, hslot⟩

/-- **What was asked for after a pass**: what was asked for before it, and what was due. -/
theorem isAsked_reconcile (v : View) (d : Address) :
    v.reconcile.1.isAsked d = (v.isAsked d || decide (d ∈ v.due)) := by
  rcases hs : v.submission with _ | s
  · rw [reconcile_of_none hs]
    simp only [due, hs, List.not_mem_nil, decide_false, Bool.or_false]
  · rcases d with k | ⟨n, k⟩
    · simp only [isAsked, compilation_mem_due_iff hs, Compilation.mem_due_iff, reconcile, hs,
        Compilation.requested_reconcile, Bool.decide_eq_true]
    · have hslot := v.slot?_reconcile (.test n k)
      simp only [slot?] at hslot
      rw [isAsked, isAsked, hslot]
      by_cases h : .test n k ∈ v.due
      · obtain ⟨slot, hd⟩ := exists_slot_of_mem_due h
        rw [slot?] at hd
        simp [h, hd, Slot.request]
      · simp [h]

end View

end JudgeDesk
