import Mathlib.Data.List.Sort
import JudgeDesk.TestGroup.Edit

/-!
# Rank and face

What a group may require depends on the *faces* of the groups before it, their names and kinds of
scoring, and the order in which it lists them depends on the names only. So all that leaves the
faces alone leaves both alone.

* `face` — what the other groups see of a group;
* `rank_eq_of_names`, `rank_eq_of_faces`, `mayRequire_eq_of_faces` — rank and permission are read off
  the names or the faces;
* `mayRequire_iff`, `mayRequire_iff_exists` — permission, spelled out;
* `pairwise_sortByRank`, `perm_sortByRank` — sorting by rank sorts, and neither adds nor drops
  names.

Sorting by rank is the library's insertion sort for the preorder of ranks.
-/

namespace JudgeDesk.TestGroup

variable {groups groups' : List TestGroup}

/-! ### Faces -/

/-- **Face.** What the other groups see of a group: its name, and how it is scored. -/
def face (g : TestGroup) : String × ScoringType := (g.name, g.scoringType)

/-- What every group keeps when all are changed is the same throughout. -/
theorem map_mapIdx_eq_map {β : Type} (π : TestGroup → β) {f : Nat → TestGroup → TestGroup}
    (hf : ∀ i g, π (f i g) = π g) : (groups.mapIdx f).map π = groups.map π := by
  apply List.ext_getElem?
  intro i
  simp only [List.getElem?_map, List.getElem?_mapIdx, Option.map_map]
  congr 1
  funext g
  exact hf i g

/-- What one group keeps when it is changed is the same throughout. -/
theorem map_modify_eq_map {β : Type} (π : TestGroup → β) {f : TestGroup → TestGroup}
    (hf : ∀ g, π (f g) = π g) (i : Nat) : (groups.modify i f).map π = groups.map π := by
  apply List.ext_getElem?
  intro k
  simp only [List.getElem?_map, List.getElem?_modify, Option.map_eq_map, Option.map_map]
  congr 1
  funext g
  rw [Function.comp_apply]
  split
  · exact hf g
  · rfl

@[simp] theorem map_face_sorted : (sorted groups).map face = groups.map face := by
  rw [sorted, List.map_map]
  rfl

@[simp] theorem map_face_purge (owner : Nat) (name : String) :
    (purge owner name groups).map face = groups.map face := by
  refine map_mapIdx_eq_map face fun i g => ?_
  split <;> rfl

/-! ### Rank -/

theorem rank_eq_findIdx_names (groups : List TestGroup) (n : String) :
    rank groups n = (groups.map (·.name)).findIdx (· = n) := by
  rw [List.findIdx_map]
  rfl

/-- **Rank is read off the names.** -/
theorem rank_eq_of_names (h : groups.map (·.name) = groups'.map (·.name)) (n : String) :
    rank groups n = rank groups' n := by
  rw [rank_eq_findIdx_names, rank_eq_findIdx_names, h]

theorem names_eq_of_faces (h : groups.map face = groups'.map face) :
    groups.map (·.name) = groups'.map (·.name) := by
  have hnames (groups : List TestGroup) : groups.map (·.name) = (groups.map face).map (·.1) := by
    rw [List.map_map]
    rfl
  rw [hnames, hnames, h]

/-- Rank is read off the faces. -/
theorem rank_eq_of_faces (h : groups.map face = groups'.map face) (n : String) :
    rank groups n = rank groups' n :=
  rank_eq_of_names (names_eq_of_faces h) n

/-- A name has a rank among the positions exactly if a group carries it. -/
theorem rank_lt_length_iff {n : String} :
    rank groups n < groups.length ↔ ∃ g ∈ groups, g.name = n := by
  rw [rank, List.findIdx_lt_length]
  simp

/-- The group at the rank of a name carries it. -/
theorem map_name_getElem?_rank {n : String} (h : ∃ g ∈ groups, g.name = n) :
    (groups[rank groups n]?).map (·.name) = some n := by
  have hlt : rank groups n < groups.length := rank_lt_length_iff.mpr h
  rw [List.getElem?_eq_getElem hlt, Option.map_some, Option.some.injEq]
  exact of_decide_eq_true (List.findIdx_getElem (w := hlt))

/-- Names of equal rank are equal, as soon as one of them is carried. -/
theorem eq_of_rank_eq {a b : String} (ha : ∃ g ∈ groups, g.name = a)
    (hab : rank groups a = rank groups b) : a = b := by
  have hb : ∃ g ∈ groups, g.name = b :=
    rank_lt_length_iff.mp (hab ▸ rank_lt_length_iff.mpr ha)
  refine Option.some.inj ?_
  rw [← map_name_getElem?_rank ha, ← map_name_getElem?_rank hb, hab]

/-! ### Sorting by rank -/

theorem insertByRank_eq_orderedInsert (n : String) (l : List String) :
    insertByRank groups n l =
      l.orderedInsert (fun a b => rank groups a ≤ rank groups b) n := by
  induction l with
  | nil => rfl
  | cons m rest ih =>
    rw [insertByRank, List.orderedInsert_cons, ih]
    by_cases h : rank groups m < rank groups n
    · rw [if_pos h, if_neg (Nat.not_le.mpr h)]
    · rw [if_neg h, if_pos (Nat.le_of_not_lt h)]

theorem sortByRank_eq_insertionSort (l : List String) :
    sortByRank groups l = l.insertionSort fun a b => rank groups a ≤ rank groups b := by
  induction l with
  | nil => rfl
  | cons n rest ih =>
    rw [sortByRank, List.insertionSort_cons, ih, insertByRank_eq_orderedInsert]

/-- Sorting by rank only rearranges. -/
theorem perm_sortByRank (l : List String) : (sortByRank groups l).Perm l := by
  rw [sortByRank_eq_insertionSort]
  exact List.perm_insertionSort _ l

/-- Sorting by rank sorts. -/
theorem pairwise_sortByRank (l : List String) :
    (sortByRank groups l).Pairwise fun a b => rank groups a ≤ rank groups b := by
  have : Std.Total fun a b : String => rank groups a ≤ rank groups b :=
    ⟨fun a b => Nat.le_total (rank groups a) (rank groups b)⟩
  have : IsTrans String fun a b => rank groups a ≤ rank groups b :=
    ⟨fun _ _ _ => Nat.le_trans⟩
  rw [sortByRank_eq_insertionSort]
  exact List.pairwise_insertionSort _ l

/-! ### Permission -/

theorem isEligible_iff (g : TestGroup) :
    g.isEligible = true ↔ g.name ≠ "" ∧ g.scoringType = .complete := by
  simp [isEligible]

/-- **Permission, spelled out**: the name is not empty, and the face of an earlier group shows it
together with complete scoring. -/
theorem mayRequire_iff {i : Nat} {n : String} :
    mayRequire groups i n = true ↔
      n ≠ "" ∧ ∃ j < i, (groups.map face)[j]? = some (n, .complete) := by
  rw [mayRequire, List.any_eq_true]
  constructor
  · rintro ⟨g, hg, hn⟩
    rw [Bool.and_eq_true, isEligible_iff, decide_eq_true_eq] at hn
    obtain ⟨⟨hne, hcomplete⟩, rfl⟩ := hn
    obtain ⟨j, hj⟩ := List.mem_iff_getElem?.mp hg
    rw [List.getElem?_take] at hj
    split at hj
    · next hlt =>
      refine ⟨hne, j, hlt, ?_⟩
      rw [List.getElem?_map, hj, Option.map_some, face, hcomplete]
    · cases hj
  · rintro ⟨hne, j, hlt, hj⟩
    rw [List.getElem?_map, Option.map_eq_some_iff] at hj
    obtain ⟨g, hg, hface⟩ := hj
    obtain ⟨rfl, hcomplete⟩ := Prod.mk.inj hface
    refine ⟨g, List.mem_iff_getElem?.mpr ⟨j, ?_⟩, ?_⟩
    · rw [List.getElem?_take_of_lt hlt, hg]
    · rw [Bool.and_eq_true, isEligible_iff]
      exact ⟨⟨hne, hcomplete⟩, decide_eq_true rfl⟩

/-- Permission, in terms of the groups. -/
theorem mayRequire_iff_exists {i : Nat} {n : String} :
    mayRequire groups i n = true ↔
      n ≠ "" ∧ ∃ j < i, ∃ g, groups[j]? = some g ∧ g.name = n ∧ g.scoringType = .complete := by
  rw [mayRequire_iff]
  simp only [List.getElem?_map, Option.map_eq_some_iff, face, Prod.mk.injEq]

/-- **Permission is read off the faces.** -/
theorem mayRequire_eq_of_faces (h : groups.map face = groups'.map face) (i : Nat) (n : String) :
    mayRequire groups i n = mayRequire groups' i n := by
  rw [Bool.eq_iff_iff, mayRequire_iff, mayRequire_iff, h]

/-- What a group may require is carried by some group. -/
theorem exists_mem_of_mayRequire {i : Nat} {n : String} (h : mayRequire groups i n = true) :
    ∃ g ∈ groups, g.name = n := by
  obtain ⟨-, j, -, g, hg, hname, -⟩ := mayRequire_iff_exists.mp h
  exact ⟨g, List.mem_of_getElem? hg, hname⟩

end JudgeDesk.TestGroup
