import Mathlib.Data.List.Basic
import JudgeDesk.Proofs.View.Course

/-!
# No two artifacts share an address

The judge keeps each artifact under a path of its own, although two kinds of them are kept by
submission, numbers are written without leading zeros, and the segment of an artifact need not be
its name. A path is a list of segments joined by slashes, and no segment holds one: so the segments
can be had back from the path, and what is fetched from the segments.

* `Text.decimal_injective`, `Text.slash_notMem_decimal` — numerals as segments;
* `Target.segments`, `Target.toList_path` — the segments of a path;
* `Target.segments_injective`, `Target.path_injective` — what is fetched is told by its segments,
  and by its path;
* `Address.target_inj` — different addresses of a submission stand for different things to fetch;
* `Fetch.paths_apart` — orders for a submission go to one path exactly if they are for one address.
-/

namespace JudgeDesk

/-! ### Segments -/

namespace Text

@[simp] theorem toList_decimal (n : Nat) : (decimal n).toList = Nat.toDigits 10 n :=
  String.toList_ofList

/-- **A numeral tells its number.** -/
theorem decimal_injective : Function.Injective decimal := by
  intro m n h
  have hdigits : Nat.toDigits 10 m = Nat.toDigits 10 n := by
    rw [← toList_decimal, ← toList_decimal, h]
  have hvalue := congrArg (Nat.ofDigitChars 10 · 0) hdigits
  simpa only [Nat.ofDigitChars_ten_toDigits] using hvalue

theorem slash_notMem_decimal (n : Nat) : '/' ∉ (decimal n).toList := by
  rw [toList_decimal]
  intro h
  exact absurd (Nat.isDigit_of_mem_toDigits (by decide) (by decide) h) (by decide)

end Text

theorem TestArtifact.segment_injective : Function.Injective TestArtifact.segment := by
  intro k k' h
  cases k <;> cases k' <;> first | rfl | exact absurd h (by decide)

theorem TestArtifact.slash_notMem_segment (k : TestArtifact) : '/' ∉ k.segment.toList := by
  cases k <;> decide

namespace Target

/-- **The segments of a path.** -/
def segments : Target → List String
  | .submissionSource id => ["submission", Text.decimal id.toNat, "source"]
  | .compileOutput id => ["submission", Text.decimal id.toNat, "compile_output"]
  | .problemTest id test artifact =>
    ["problem", Text.decimal id.toNat, "test", Text.decimal test, artifact.segment]
  | .submissionTest id test artifact =>
    ["submission", Text.decimal id.toNat, "test", Text.decimal test, artifact.segment]

/-- A path begins with a slash, and slashes are between its segments. -/
theorem toList_path (t : Target) :
    t.path.toList = ['/'].intercalate ([] :: t.segments.map String.toList) := by
  unfold path
  cases t <;> simp [segments, List.intercalate]

theorem slash_notMem_segments (t : Target) : ∀ segment ∈ t.segments, '/' ∉ segment.toList := by
  cases t <;> simp only [segments, List.forall_mem_cons, List.not_mem_nil, IsEmpty.forall_iff,
    implies_true, and_true, Text.slash_notMem_decimal, TestArtifact.slash_notMem_segment,
    not_false_eq_true, true_and] <;> decide

/-- **The segments tell what is fetched.** -/
theorem segments_injective : Function.Injective segments := by
  intro t t' h
  cases t <;> cases t' <;> simp [segments, Text.decimal_injective.eq_iff, UInt64.toNat_inj,
    TestArtifact.segment_injective.eq_iff] at h ⊢ <;> exact h

/-- The segments are what a path falls into at its slashes. -/
theorem splitOn_path (t : Target) :
    t.path.toList.splitOn '/' = [] :: t.segments.map String.toList := by
  rw [toList_path]
  refine List.splitOn_intercalate '/' ?_ (List.cons_ne_nil _ _)
  -- nothing is before the first slash
  refine List.forall_mem_cons.mpr ⟨List.not_mem_nil, List.forall_mem_map.mpr ?_⟩
  exact t.slash_notMem_segments

/-- **The path tells what is fetched.** -/
theorem path_injective : Function.Injective path := by
  intro t t' h
  have hsplit : t.path.toList.splitOn '/' = t'.path.toList.splitOn '/' := by rw [h]
  rw [splitOn_path, splitOn_path] at hsplit
  have hchars := (List.cons.inj hsplit).2
  have hsegments : t.segments = t'.segments :=
    List.map_injective_iff.mpr (fun _ _ => String.toList_injective) hchars
  exact segments_injective hsegments

end Target

/-! ### Addresses -/

namespace Address

variable {s s' : Submission} {d d' : Address}

/-- What is fetched for an address depends on a submission by its id and its problem only. -/
theorem target_congr (hid : s.id = s'.id) (hproblem : s.problemId = s'.problemId) (d : Address) :
    d.target s = d.target s' := by
  rcases d with k | ⟨n, k⟩ <;> cases k <;> simp only [target, hid, hproblem]

/-- **Different addresses of a submission** stand for different things to fetch. -/
theorem target_inj : d.target s = d'.target s ↔ d = d' := by
  refine ⟨fun h => ?_, fun h => by rw [h]⟩
  rcases d with k | ⟨n, k⟩ <;> rcases d' with k' | ⟨n', k'⟩ <;> cases k <;> cases k' <;>
    simp [target] at h ⊢ <;> exact h

end Address

namespace Fetch

/-- **No two artifacts share an address.** Different things to fetch have different paths. Of the
orders that any views of the same submission give, two go to the same path exactly if they are for
the same address. -/
theorem paths_apart :
    Function.Injective Target.path ∧
      ∀ (v v' : View) (s s' : Submission), v.submission = some s → v'.submission = some s' →
        s.id = s'.id → s.problemId = s'.problemId →
        ∀ f ∈ v.reconcile.2, ∀ g ∈ v'.reconcile.2,
          f.target.path = g.target.path ↔ f.destination = g.destination := by
  refine ⟨Target.path_injective, fun v v' s s' hs hs' hid hproblem f hf g hg => ?_⟩
  -- an order asks for what its address stands for in the submission that is viewed
  have horder {v : View} {s : Submission} (hs : v.submission = some s) {f : Fetch}
      (hf : f ∈ v.reconcile.2) : f.target = f.destination.target s := by
    obtain ⟨-, s₀, hs₀, heq⟩ := View.eq_order_of_mem_reconcile hf
    obtain rfl := Option.some.inj (hs₀.symm.trans hs)
    rw [heq]
    rfl
  rw [Target.path_injective.eq_iff, horder hs hf, horder hs' hg,
    Address.target_congr hid hproblem f.destination, Address.target_inj]

/-- A view of a submission that was compiled, in which everything is shown. -/
def allShown : View :=
  (Course.run {} [.intent (.load (.ofOneTest 7)), .intent (.compilation .toggle),
    .intent (.test (.toggle 1))]).view

/-- A view of the same submission after it was loaded again, in which its test is shown. -/
def testShownAgain : View :=
  (Course.run { view := allShown } [.reconcile, .intent (.load (.ofOneTest 7)),
    .intent (.test (.toggle 1))]).view

theorem paths_apart_testShownAgain :
    allShown.reconcile.2.length = 7 ∧ testShownAgain.reconcile.2.length = 5 ∧
      ∀ f ∈ allShown.reconcile.2, ∀ g ∈ testShownAgain.reconcile.2,
        f.target.path = g.target.path ↔ f.destination = g.destination :=
  ⟨rfl, rfl, paths_apart.2 allShown testShownAgain (.ofOneTest 7) (.ofOneTest 7) rfl rfl rfl rfl⟩

end Fetch

end JudgeDesk
