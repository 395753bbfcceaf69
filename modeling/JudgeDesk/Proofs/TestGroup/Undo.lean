import JudgeDesk.Proofs.Problem.Run
import JudgeDesk.Proofs.TestGroup.Replay

/-!
# Taking a requirement back

Among valid groups a requirement that is added may be removed again, and one that is removed may be
added again, and afterwards nothing tells that it was done. The sorting puts a name that comes back
to the place where it was: valid requirements are determined by which names they are, and so all
there is to see to is that the same names are there again.

* `mem_requiredAt_removeRequired` — the names that are left when one is removed;
* `Valid.unrequire_require`, `Valid.require_unrequire` — one action and then the other;
* `undo_requirement` — adding and removing a requirement undo each other.
-/

namespace JudgeDesk.TestGroup

variable {groups : List TestGroup} {i j : Nat} {m n : String}

/-! ### One action -/

/-- A name may be removed from the requirements of any group, whether it is among them or not. -/
theorem apply_removeRequired (hlt : i < groups.length) (n : String) :
    apply groups (some i) (.removeRequired n) =
      .ok (sorted (perform groups i (.removeRequired n))) :=
  (apply_some_eq_ok_iff (by simp)).mpr ⟨hlt, rfl, rfl⟩

/-- **What is required after a name was removed.** Only the first mention of it goes, but there is no
other one. -/
theorem mem_requiredAt_removeRequired (h : Valid groups) :
    m ∈ requiredAt (perform groups i (.removeRequired n)) j ↔
      m ∈ requiredAt groups j ∧ ¬(j = i ∧ m = n) := by
  rw [mem_requiredAt_iff, mem_requiredAt_iff]
  simp only [perform, List.getElem?_modify, Option.map_eq_map, Option.map_eq_some_iff,
    exists_exists_and_eq_and]
  by_cases hij : i = j
  · subst hij
    simp only [if_true, true_and]
    constructor
    · rintro ⟨g, hg, hm⟩
      obtain ⟨hne, hmem⟩ := (h i g hg).nodup.mem_erase_iff.mp hm
      exact ⟨⟨g, hg, hmem⟩, hne⟩
    · rintro ⟨⟨g, hg, hmem⟩, hne⟩
      exact ⟨g, hg, (h i g hg).nodup.mem_erase_iff.mpr ⟨hne, hmem⟩⟩
  · simp only [if_neg hij, Ne.symm hij, false_and, not_false_eq_true, and_true]

/-! ### One action and then the other -/

/-- **Removing what was added** gives back what was there. -/
theorem Valid.unrequire_require (h : Valid groups) (hn : n ∈ candidates groups i) :
    ∃ groups', TestGroup.apply groups (some i) (.addRequired n) = .ok groups' ∧
      TestGroup.apply groups' (some i) (.removeRequired n) = .ok groups := by
  obtain ⟨hlt, -, hnew⟩ := mem_candidates_iff_requiredAt.mp hn
  have hbare : (sorted (perform groups i (.addRequired n))).map bare = groups.map bare :=
    map_bare_sorted_modify groups i fun _ => rfl
  have hadd := apply_addRequired hn
  have hremove := apply_removeRequired (hlt.trans_eq (length_eq_of_bare hbare).symm) n
  have hvalid := h.apply hadd
  refine ⟨_, hadd, hremove.trans (congrArg Except.ok ?_)⟩
  refine (hvalid.apply hremove).eq_of_mem_iff h ?_ fun j m => ?_
  · refine (map_bare_sorted_modify _ i ?_).trans hbare
    exact fun _ => rfl
  · rw [mem_requiredAt_sorted, mem_requiredAt_removeRequired hvalid, mem_requiredAt_sorted,
      mem_requiredAt_addRequired]
    constructor
    · rintro ⟨hold | ⟨rfl, rfl, -⟩, hother⟩
      · exact hold
      · exact absurd ⟨rfl, rfl⟩ hother
    · intro hold
      refine ⟨.inl hold, ?_⟩
      rintro ⟨rfl, rfl⟩
      exact hnew hold

/-- **Adding what was removed** is accepted, and gives back what was there. -/
theorem Valid.require_unrequire (h : Valid groups) (hn : n ∈ requiredAt groups i) :
    ∃ groups', TestGroup.apply groups (some i) (.removeRequired n) = .ok groups' ∧
      TestGroup.apply groups' (some i) (.addRequired n) = .ok groups := by
  obtain ⟨g, hg, hmem⟩ := mem_requiredAt_iff.mp hn
  have hlt : i < groups.length := (List.getElem?_eq_some_iff.mp hg).1
  have hbare : (sorted (perform groups i (.removeRequired n))).map bare = groups.map bare :=
    map_bare_sorted_modify groups i fun _ => rfl
  -- the name may be required still, and it is not required any more
  have hcand : n ∈ candidates (sorted (perform groups i (.removeRequired n))) i := by
    refine mem_candidates_iff_requiredAt.mpr ⟨?_, ?_, fun hstill => ?_⟩
    · exact hlt.trans_eq (length_eq_of_bare hbare).symm
    · rw [mayRequire_eq_of_faces (map_face_eq_of_bare hbare)]
      exact (h i g hg).coherentAt.mayRequire n hmem
    · rw [mem_requiredAt_sorted, mem_requiredAt_removeRequired h] at hstill
      exact hstill.2 ⟨rfl, rfl⟩
  have hremove := apply_removeRequired hlt n
  have hadd := apply_addRequired hcand
  refine ⟨_, hremove, hadd.trans (congrArg Except.ok ?_)⟩
  refine ((h.apply hremove).apply hadd).eq_of_mem_iff h ?_ fun j m => ?_
  · refine (map_bare_sorted_modify _ i ?_).trans hbare
    exact fun _ => rfl
  · rw [mem_requiredAt_sorted, mem_requiredAt_addRequired, mem_requiredAt_sorted,
      mem_requiredAt_removeRequired h, length_eq_of_bare hbare]
    constructor
    · rintro (⟨hold, -⟩ | ⟨rfl, rfl, -⟩)
      · exact hold
      · exact hn
    · intro hold
      by_cases hsame : j = i ∧ m = n
      · exact .inr ⟨hsame.1, hsame.2, hlt⟩
      · exact .inl ⟨hold, hsame⟩

/-- **Adding and removing a requirement undo each other** among valid groups. What may be required is
accepted, and removing it gives back the same groups; what is required may be removed, and then it
is accepted again and gives back the same groups. The groups that an editor holds are always
valid. -/
theorem undo_requirement :
    (∀ groups, Valid groups → ∀ i n,
      (n ∈ candidates groups i → ∃ groups', apply groups (some i) (.addRequired n) = .ok groups' ∧
        apply groups' (some i) (.removeRequired n) = .ok groups) ∧
      (n ∈ requiredAt groups i → ∃ groups', apply groups (some i) (.removeRequired n) = .ok groups' ∧
        apply groups' (some i) (.addRequired n) = .ok groups)) ∧
    ∀ steps, Valid (Problem.run {} steps).groups := by
  refine ⟨fun groups h i n => ⟨h.unrequire_require, h.require_unrequire⟩, fun steps => ?_⟩
  refine Problem.valid_run steps fun i g hg => ?_
  cases hg

/-- Two groups share a name, and the last one requires it together with two others. -/
def crowded : List TestGroup :=
  [{ name := "A" }, { name := "B" }, { name := "A", required := ["A", "B"] }, { name := "C" },
    { name := "D", required := ["A", "B", "C"] }]

/-- A name is taken out of the middle and comes back to its place, and another one goes in and out
again. -/
theorem undo_requirement_crowded :
    Valid crowded ∧ "B" ∈ requiredAt crowded 4 ∧ "A" ∈ candidates crowded 3 ∧
      (∃ groups', apply crowded (some 4) (.removeRequired "B") = .ok groups' ∧
        requiredAt groups' 4 = ["A", "C"] ∧
        apply groups' (some 4) (.addRequired "B") = .ok crowded) ∧
      ∃ groups', apply crowded (some 3) (.addRequired "A") = .ok groups' ∧
        requiredAt groups' 3 = ["A"] ∧
        apply groups' (some 3) (.removeRequired "A") = .ok crowded := by
  have hvalid : Valid crowded := by
    have hnormal : normalize crowded = crowded := by decide
    exact hnormal ▸ valid_normalize crowded
  have hreq : "B" ∈ requiredAt crowded 4 := by decide
  have hcand : "A" ∈ candidates crowded 3 := by decide
  obtain ⟨less, hremove, hadd⟩ := (undo_requirement.1 crowded hvalid 4 "B").2 hreq
  obtain ⟨more, hadd', hremove'⟩ := (undo_requirement.1 crowded hvalid 3 "A").1 hcand
  have hless : requiredAt less 4 = ["A", "C"] := by
    rw [← Except.ok.inj hremove]
    decide
  have hmore : requiredAt more 3 = ["A"] := by
    rw [← Except.ok.inj hadd']
    decide
  exact ⟨hvalid, hreq, hcand, ⟨less, hremove, hless, hadd⟩, more, hadd', hmore, hremove'⟩

end JudgeDesk.TestGroup
