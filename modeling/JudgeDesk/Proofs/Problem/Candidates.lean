import JudgeDesk.Proofs.Problem.Run
import JudgeDesk.Proofs.TestGroup.Entry

/-!
# What may still be required

An editor shows for every group what it may still require, and a requirement is accepted if it is
shown there. What is shown is read off the faces of the groups before the one in question and off the
names that it requires already, be its requirements valid or not. So when a requirement is accepted
its name is no longer shown for that group, and for the others nothing changes.

* `TestGroup.candidates_of_getElem?` — candidates, read off the faces;
* `TestGroup.candidates_entered` — candidates after names were entered;
* `apply_addRequired_eq_ok_iff` — what is accepted, and what comes of it;
* `requirementCandidates_exact` — what is shown is what is accepted, also afterwards.
-/

namespace JudgeDesk

namespace TestGroup

variable {groups : List TestGroup} {i : Nat} {g : TestGroup}

/-- **Candidates are read off the faces** of the groups before, and the names that are required
already. -/
theorem candidates_of_getElem? (hg : groups[i]? = some g) :
    candidates groups i = (((groups.map face).take i).filter fun f =>
      (f.1 ≠ "" && f.2 = .complete) && !decide (f.1 ∈ g.required)).map (·.1) := by
  simp only [candidates, hg, ← List.map_take, List.filter_map, List.map_map]
  rfl

/-- **Candidates after names were entered**: the group that requires them has them no longer, and all
others have what they had. -/
theorem candidates_entered (groups : List TestGroup) (i : Nat) (names : List String) (k : Nat) :
    candidates (entered groups i names) k =
      if k = i then (candidates groups k).filter (· ∉ names) else candidates groups k := by
  have hface := map_face_eq_of_bare (map_bare_entered groups i names)
  rcases hg : groups[k]? with _ | g
  · have hnone : (entered groups i names)[k]? = none := by
      rw [getElem?_entered, hg, Option.map_none]
    simp only [candidates, hg, hnone, List.filter_nil, ite_self]
  · have hentered : (entered groups i names)[k]? = some { g with
        required := sortByRank groups (if k = i then g.required ++ names else g.required) } := by
      rw [getElem?_entered, hg, Option.map_some]
    rw [candidates_of_getElem? hentered, hface, candidates_of_getElem? hg]
    simp only [(perm_sortByRank _).mem_iff]
    split_ifs with hk
    · rw [List.filter_map, List.filter_filter]
      congr 1
      refine List.filter_congr fun f _ => ?_
      simp only [Function.comp_apply, List.mem_append, Bool.decide_or, Bool.not_or, decide_not]
      rw [← Bool.and_assoc, Bool.and_comm]
    · rfl

end TestGroup

namespace Problem

open TestGroup (candidates entered)

theorem getElem?_requirementCandidates (p : Problem) (i : Nat) :
    p.requirementCandidates[i]? = p.groups[i]?.map fun _ => candidates p.groups i := by
  rw [requirementCandidates, TestGroup.allCandidates, List.getElem?_map]
  rcases hi : p.groups[i]? with _ | g
  · rw [List.getElem?_eq_none_iff] at hi
    rw [List.getElem?_eq_none (by simpa using hi)]
    rfl
  · have hlt : i < p.groups.length := (List.getElem?_eq_some_iff.mp hi).1
    rw [List.getElem?_range hlt]
    rfl

theorem length_requirementCandidates (p : Problem) :
    p.requirementCandidates.length = p.groups.length := by
  rw [requirementCandidates, TestGroup.allCandidates, List.length_map, List.length_range]

/-- A problem that accepts a requirement: it is a candidate, and it is entered. -/
theorem apply_addRequired_eq_ok_iff {p p' : Problem} {i : Nat} {n : String} :
    p.apply (.group (some i) (.addRequired n)) = .ok p' ↔
      n ∈ candidates p.groups i ∧ p' = { p with groups := entered p.groups i [n] } := by
  constructor
  · intro h
    obtain ⟨groups, happly, rfl⟩ := apply_group_eq_ok h
    obtain ⟨hn, rfl⟩ := TestGroup.apply_addRequired_eq_ok_iff.mp happly
    exact ⟨hn, rfl⟩
  · rintro ⟨hn, rfl⟩
    have happly := TestGroup.apply_addRequired_eq_ok_iff.mpr ⟨hn, rfl⟩
    rw [apply, happly]
    rfl

/-- **What is shown is what is accepted.** For every group there is a list of what it may still
require, and a requirement is accepted at a position exactly if its name is in the list for it. When
one is accepted its name goes from that list wherever it is, and all other lists stay as they
are. -/
theorem requirementCandidates_exact (p : Problem) :
    p.requirementCandidates.length = p.groups.length ∧
    (∀ i n, (∃ names, p.requirementCandidates[i]? = some names ∧ n ∈ names) ↔
      ∃ p', p.apply (.group (some i) (.addRequired n)) = .ok p') ∧
    ∀ i n p', p.apply (.group (some i) (.addRequired n)) = .ok p' →
      p'.requirementCandidates = p.requirementCandidates.modify i (·.filter (· ≠ n)) := by
  refine ⟨p.length_requirementCandidates, fun i n => ?_, fun i n p' happly => ?_⟩
  · constructor
    · rintro ⟨names, hnames, hn⟩
      rw [getElem?_requirementCandidates] at hnames
      obtain ⟨g, -, rfl⟩ := Option.map_eq_some_iff.mp hnames
      exact ⟨_, apply_addRequired_eq_ok_iff.mpr ⟨hn, rfl⟩⟩
    · rintro ⟨p', happly⟩
      obtain ⟨hn, -⟩ := apply_addRequired_eq_ok_iff.mp happly
      obtain ⟨g, hg, -, -⟩ := TestGroup.mem_candidates_iff.mp hn
      refine ⟨candidates p.groups i, ?_, hn⟩
      rw [getElem?_requirementCandidates, hg, Option.map_some]
  · obtain ⟨-, rfl⟩ := apply_addRequired_eq_ok_iff.mp happly
    refine List.ext_getElem? fun k => ?_
    rw [List.getElem?_modify, getElem?_requirementCandidates, getElem?_requirementCandidates,
      TestGroup.getElem?_entered, Option.map_map, Option.map_eq_map, Option.map_map]
    refine Option.map_congr fun g _ => ?_
    simp only [Function.comp_apply, TestGroup.candidates_entered, List.mem_singleton]
    by_cases hk : i = k
    · rw [if_pos hk, if_pos hk.symm]
    · rw [if_neg hk, if_neg (Ne.symm hk)]

/-- Two groups share a name, and one has none; the last one requires the others out of order. -/
def doubleNamed : Problem :=
  { groups := [{ name := "A" }, { name := "B" }, {}, { name := "A" }, { name := "C" },
      { name := "D", required := ["C", "B"] }] }

/-- Both namesakes are shown for a group, and neither is after their name is accepted there. -/
theorem requirementCandidates_exact_doubleNamed :
    doubleNamed.requirementCandidates =
        [[], ["A"], ["A", "B"], ["A", "B"], ["A", "B", "A"], ["A", "A"]] ∧
      ∃ p', doubleNamed.apply (.group (some 5) (.addRequired "A")) = .ok p' ∧
        p'.requirementCandidates = [[], ["A"], ["A", "B"], ["A", "B"], ["A", "B", "A"], []] := by
  have hshown : doubleNamed.requirementCandidates =
      [[], ["A"], ["A", "B"], ["A", "B"], ["A", "B", "A"], ["A", "A"]] := by decide
  obtain ⟨-, haccepted, hafter⟩ := requirementCandidates_exact doubleNamed
  obtain ⟨p', happly⟩ := (haccepted 5 "A").mp ⟨["A", "A"], by rw [hshown]; rfl, by decide⟩
  refine ⟨hshown, p', happly, ?_⟩
  rw [hafter 5 "A" p' happly, hshown]
  decide

end Problem

end JudgeDesk
