import JudgeDesk.Proofs.Problem.Run
import JudgeDesk.Proofs.TestGroup.Replay

/-!
# Loading what is there

A problem that is swapped in loses the requirements that cannot hold, and keeps all else. Valid
requirements are the ones that nothing is done to, and in an editor they always are valid: whatever
an editor holds may be saved and loaded again, and nothing is lost.

* `TestGroup.normalize_of_valid` — valid requirements are normal already;
* `TestGroup.normalize_eq_self_iff` — and no others are;
* `Problem.reload_run` — what normal requirements are, and that loading what an editor holds changes
  nothing.
-/

namespace JudgeDesk

namespace TestGroup

variable {groups : List TestGroup}

/-- **Valid requirements are normal**: each of them may be there, and they are in order. -/
theorem normalize_of_valid (h : Valid groups) : normalize groups = groups := by
  refine (valid_normalize groups).eq_of_mem_iff h (map_bare_normalize groups) fun i n => ?_
  rw [mem_requiredAt_normalize, and_iff_left_iff_imp, mem_requiredAt_iff]
  rintro ⟨g, hg, hn⟩
  exact (h i g hg).coherentAt.mayRequire n hn

/-- **The normal requirements are the valid ones.** -/
theorem normalize_eq_self_iff : normalize groups = groups ↔ Valid groups := by
  refine ⟨fun h => ?_, normalize_of_valid⟩
  rw [← h]
  exact valid_normalize groups

end TestGroup

namespace Problem

open TestGroup (normalize Valid bare requiredAt)

/-- **Loading what an editor holds changes nothing.** Groups are normal exactly if their
requirements are valid. Making them so once is enough, changes requirements only, and keeps of each
list the names that an earlier group with complete scoring has. And whatever an editor holds after a
run, swapping it in for whatever problem gives it back. -/
theorem reload_run :
    (∀ groups, normalize groups = groups ↔ Valid groups) ∧
    (∀ groups, normalize (normalize groups) = normalize groups ∧
      (normalize groups).map bare = groups.map bare ∧
      ∀ i n, n ∈ requiredAt (normalize groups) i ↔
        n ∈ requiredAt groups i ∧ n ≠ "" ∧
          ∃ j < i, ∃ g, groups[j]? = some g ∧ g.name = n ∧ g.scoringType = .complete) ∧
    ∀ steps p, apply p (.replace (run {} steps)) = .ok (run {} steps) := by
  refine ⟨fun groups => TestGroup.normalize_eq_self_iff, fun groups => ⟨?_, ?_, fun i n => ?_⟩,
    fun steps p => ?_⟩
  · exact TestGroup.normalize_of_valid (TestGroup.valid_normalize groups)
  · exact TestGroup.map_bare_normalize groups
  · rw [TestGroup.mem_requiredAt_normalize, TestGroup.mayRequire_iff_exists]
  · have hvalid : Valid (run {} steps).groups := by
      refine valid_run steps fun i g hg => ?_
      cases hg
    rw [apply, TestGroup.normalize_of_valid hvalid]

end Problem

end JudgeDesk
