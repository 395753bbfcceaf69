import Mathlib.Data.List.InsertIdx
import JudgeDesk.Proofs.TestGroup.Effect

/-!
# Names under actions

Requirements go by name, and so it matters whether two groups share one. No action makes two groups
share a name, the empty one apart: a group is not given a name that another one carries, a new group
has none, and groups that move up when another one is removed keep theirs.

* `nameAt`, `formerly` — the name of the group at a position, and where the group at a position
  stood before an action;
* `names_perform` — the names after an action;
* `nameAt_formerly_of_apply` — groups that share a name after an action shared it before;
* `Distinct`, `Distinct.apply` — no two groups share a name, and every action leaves it at that;
* `Designates`, `Valid.exists_designates` — then every requirement is on one group.
-/

namespace JudgeDesk.TestGroup

variable {groups groups' : List TestGroup} {index : Option Nat} {action : GroupAction}
variable {i j k : Nat} {g : TestGroup} {n name : String}

/-! ### The names of groups -/

/-- The name of the group at a position. -/
def nameAt (groups : List TestGroup) (i : Nat) : Option String := (groups.map (·.name))[i]?

theorem nameAt_of_getElem? (hg : groups[i]? = some g) : nameAt groups i = some g.name := by
  rw [nameAt, List.getElem?_map, hg, Option.map_some]

theorem nameAt_eq_some_iff : nameAt groups i = some n ↔ ∃ g, groups[i]? = some g ∧ g.name = n := by
  rw [nameAt, List.getElem?_map, Option.map_eq_some_iff]

theorem names_sorted (groups : List TestGroup) :
    (sorted groups).map (·.name) = groups.map (·.name) :=
  names_eq_of_faces map_face_sorted

theorem names_purge (owner : Nat) (name : String) (groups : List TestGroup) :
    (purge owner name groups).map (·.name) = groups.map (·.name) :=
  names_eq_of_faces (map_face_purge owner name)

/-! ### What actions do to them -/

/-- A group gets a name that nobody else carries, or all names stay. -/
theorem names_rename (groups : List TestGroup) (i : Nat) (name : String) :
    (rename groups i name).map (·.name) = groups.map (·.name) ∨
      (isTaken groups i name = false ∧
        (rename groups i name).map (·.name) = (groups.map (·.name)).set i name) := by
  rcases hg : groups[i]? with _ | g
  · simp only [rename, hg, true_or]
  · simp only [rename, hg]
    split_ifs with hkept
    · exact .inl rfl
    · rw [not_or, Bool.not_eq_true] at hkept
      refine .inr ⟨hkept.2, ?_⟩
      rw [modify_of_getElem? (getElem?_purge_self hg _), List.map_set, names_purge]

theorem names_rescore (groups : List TestGroup) (i : Nat) (kind : ScoringType) :
    (rescore groups i kind).map (·.name) = groups.map (·.name) := by
  rcases hg : groups[i]? with _ | g
  · simp only [rescore, hg]
  · simp only [rescore, hg]
    refine (map_modify_eq_map (·.name) (fun g => name_scoredBy g kind) i).trans ?_
    split_ifs
    · rfl
    · exact names_purge i g.name groups

theorem names_remove (groups : List TestGroup) (i : Nat) :
    (remove groups i).map (·.name) = (groups.map (·.name)).eraseIdx i := by
  rcases hg : groups[i]? with _ | g
  · have hlength : (groups.map (·.name)).length ≤ i := by
      rw [List.length_map]
      exact List.getElem?_eq_none_iff.mp hg
    simp only [remove, hg]
    rw [List.eraseIdx_of_length_le hlength]
  · simp only [remove, hg]
    rw [← List.eraseIdx_map, names_purge]

/-- **The names after an action.** One is new, changed or gone, or all are the same. -/
theorem names_perform (groups : List TestGroup) (i : Nat) (action : GroupAction) :
    (action = .addGroup ∧
        (perform groups i action).map (·.name) = groups.map (·.name) ++ [""]) ∨
      (∃ name, action = .setName name ∧ isTaken groups i name = false ∧
        (perform groups i action).map (·.name) = (groups.map (·.name)).set i name) ∨
      (action = .removeGroup ∧
        (perform groups i action).map (·.name) = (groups.map (·.name)).eraseIdx i) ∨
      (action ≠ .removeGroup ∧
        (perform groups i action).map (·.name) = groups.map (·.name)) := by
  have hmodify {f : TestGroup → TestGroup} (hf : ∀ g, (f g).name = g.name) :
      (groups.modify i f).map (·.name) = groups.map (·.name) := map_modify_eq_map (·.name) hf i
  cases action with
  | addGroup =>
    refine .inl ⟨rfl, ?_⟩
    rw [perform, List.map_append]
    rfl
  | setName name =>
    rcases names_rename groups i name with hkept | ⟨hfree, hset⟩
    · exact .inr (.inr (.inr ⟨by simp, hkept⟩))
    · exact .inr (.inl ⟨name, rfl, hfree, hset⟩)
  | removeGroup => exact .inr (.inr (.inl ⟨rfl, names_remove groups i⟩))
  | setFirstTest raw =>
    refine .inr (.inr (.inr ⟨by simp, ?_⟩))
    rw [perform]
    split
    · exact hmodify fun _ => rfl
    · rfl
  | setLastTest raw =>
    refine .inr (.inr (.inr ⟨by simp, ?_⟩))
    rw [perform]
    split
    · exact hmodify fun _ => rfl
    · rfl
  | setScoringType raw =>
    refine .inr (.inr (.inr ⟨by simp, ?_⟩))
    rw [perform]
    split
    · exact names_rescore groups i _
    · rfl
  | setFeedbackType raw =>
    refine .inr (.inr (.inr ⟨by simp, ?_⟩))
    rw [perform]
    split
    · exact hmodify fun _ => rfl
    · rfl
  | setScore raw => exact .inr (.inr (.inr ⟨by simp, hmodify fun _ => rfl⟩))
  | setTestScore raw => exact .inr (.inr (.inr ⟨by simp, hmodify fun _ => rfl⟩))
  | addRequired name => exact .inr (.inr (.inr ⟨by simp, hmodify fun _ => rfl⟩))
  | removeRequired name => exact .inr (.inr (.inr ⟨by simp, hmodify fun _ => rfl⟩))

/-! ### No new name is shared -/

/-- **Formerly**: where the group that stands at a position after an action stood before it. Groups
move up when one before them is removed, and not otherwise. -/
def formerly (index : Option Nat) (action : GroupAction) (k : Nat) : Nat :=
  match action, index with
  | .removeGroup, some i => if k < i then k else k + 1
  | _, _ => k

theorem formerly_of_ne (haction : action ≠ .removeGroup) (k : Nat) :
    formerly index action k = k := by
  cases action with
  | removeGroup => exact absurd rfl haction
  | _ => rfl

theorem formerly_ne (hjk : j ≠ k) : formerly index action j ≠ formerly index action k := by
  by_cases haction : action = .removeGroup
  · subst haction
    cases index with
    | none => exact hjk
    | some i =>
      simp only [formerly]
      split_ifs <;> omega
  · rwa [formerly_of_ne haction, formerly_of_ne haction]

/-- A group that shares its name after an action had it before. -/
theorem nameAt_formerly_of_shared (h : apply groups index action = .ok groups') (hjk : j ≠ k)
    (hn : n ≠ "") (hj : nameAt groups' j = some n) (hk : nameAt groups' k = some n) :
    nameAt groups (formerly index action j) = some n := by
  obtain ⟨i, htarget, -, rfl⟩ := apply_eq_ok h
  rw [nameAt, names_sorted] at hj hk
  rw [nameAt]
  rcases names_perform groups i action with ⟨rfl, hnames⟩ | ⟨name, rfl, hfree, hnames⟩ |
    ⟨rfl, hnames⟩ | ⟨haction, hnames⟩
  · -- the new group has no name
    rw [hnames, List.getElem?_append] at hj
    split_ifs at hj with hlt
    · exact hj
    · have hempty : n = "" := List.mem_singleton.mp (List.mem_of_getElem? hj)
      exact absurd hempty hn
  · -- the name is not that of the group that was renamed, as nobody else carries that
    rw [hnames] at hj hk
    by_cases hij : i = j
    · subst hij
      rw [List.getElem?_set_ne hjk, List.getElem?_map, Option.map_eq_some_iff] at hk
      obtain ⟨g, hg, rfl⟩ := hk
      have hname : name = g.name := by
        rw [List.getElem?_set, if_pos rfl] at hj
        split_ifs at hj
        exact Option.some.inj hj
      rw [hname, isTaken_of_getElem? hg hjk.symm hn] at hfree
      cases hfree
    · rwa [List.getElem?_set_ne hij] at hj
  · -- the groups behind the one that is gone have moved up
    obtain ⟨-, rfl, -⟩ : GroupAction.removeGroup ≠ .addGroup ∧ index = some i ∧ i < groups.length :=
      (target_eq_ok htarget).resolve_left fun hadd => nomatch hadd.1
    rw [hnames, List.getElem?_eraseIdx] at hj
    rw [formerly]
    split_ifs at hj ⊢
    · exact hj
    · exact hj
  · rwa [formerly_of_ne haction, ← hnames]

/-- **Groups that share a name after an action shared it before**, where they stood then. -/
theorem nameAt_formerly_of_apply (h : apply groups index action = .ok groups') (hjk : j ≠ k)
    (hn : n ≠ "") (hj : nameAt groups' j = some n) (hk : nameAt groups' k = some n) :
    formerly index action j ≠ formerly index action k ∧
      nameAt groups (formerly index action j) = some n ∧
      nameAt groups (formerly index action k) = some n :=
  ⟨formerly_ne hjk, nameAt_formerly_of_shared h hjk hn hj hk,
    nameAt_formerly_of_shared h hjk.symm hn hk hj⟩

/-! ### Distinct names -/

/-- **Distinct names**: no two groups share a name, unless it is empty. -/
def Distinct (groups : List TestGroup) : Prop :=
  groups.Pairwise fun g g' => g.name = g'.name → g.name = ""

instance (groups : List TestGroup) : Decidable (Distinct groups) :=
  inferInstanceAs (Decidable (groups.Pairwise _))

theorem distinct_iff :
    Distinct groups ↔ ∀ j k n, n ≠ "" → nameAt groups j = some n → nameAt groups k = some n →
      j = k := by
  rw [Distinct, List.pairwise_iff_getElem]
  constructor
  · intro h j k n hn hj hk
    obtain ⟨g, hg, rfl⟩ := nameAt_eq_some_iff.mp hj
    obtain ⟨g', hg', hname⟩ := nameAt_eq_some_iff.mp hk
    obtain ⟨hjlt, rfl⟩ := List.getElem?_eq_some_iff.mp hg
    obtain ⟨hklt, rfl⟩ := List.getElem?_eq_some_iff.mp hg'
    rcases Nat.lt_trichotomy j k with hlt | heq | hgt
    · exact absurd (h j k hjlt hklt hlt hname.symm) hn
    · exact heq
    · exact absurd (hname.symm.trans (h k j hklt hjlt hgt hname)) hn
  · intro h j k hjlt hklt hlt hname
    by_contra hn
    have hj : nameAt groups j = some groups[j].name :=
      nameAt_of_getElem? (List.getElem?_eq_getElem hjlt)
    have hk : nameAt groups k = some groups[j].name :=
      hname ▸ nameAt_of_getElem? (List.getElem?_eq_getElem hklt)
    have heq := h j k _ hn hj hk
    omega

theorem distinct_congr (h : groups'.map (·.name) = groups.map (·.name)) :
    Distinct groups' ↔ Distinct groups := by
  rw [distinct_iff, distinct_iff]
  simp only [nameAt, h]

/-- **Every action leaves names distinct.** -/
theorem Distinct.apply (h : Distinct groups)
    (happly : TestGroup.apply groups index action = .ok groups') : Distinct groups' := by
  rw [distinct_iff] at h ⊢
  intro j k n hn hj hk
  by_contra hjk
  obtain ⟨hne, hj', hk'⟩ := nameAt_formerly_of_apply happly hjk hn hj hk
  exact hne (h _ _ n hn hj' hk')

/-- **Designation.** A name designates the group at a position if that one carries it and no other
one does. -/
def Designates (groups : List TestGroup) (n : String) (j : Nat) : Prop :=
  nameAt groups j = some n ∧ ∀ k, nameAt groups k = some n → k = j

/-- **A valid requirement designates one group**, an earlier one, if names are distinct. -/
theorem Valid.exists_designates (h : Valid groups) (hdistinct : Distinct groups)
    (hg : groups[i]? = some g) (hn : n ∈ g.required) : ∃ j < i, Designates groups n j := by
  obtain ⟨j, hlt, g', hg', rfl, -⟩ := (h i g hg).earlier n hn
  have hj := nameAt_of_getElem? hg'
  refine ⟨j, hlt, hj, fun k hk => ?_⟩
  exact distinct_iff.mp hdistinct k j g'.name ((h i g hg).named _ hn) hk hj

end JudgeDesk.TestGroup
