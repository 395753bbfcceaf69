import Mathlib.Data.Finset.Card
import JudgeDesk.Proofs.TestGroup.Effect

/-!
# Groups removed in any order

Some groups are removed one after the other. With each of them those behind it move up, so that a
group that is still to be removed stands as many places further up as groups before it are gone. It
does not matter which of them goes first: what is left are the other groups, in the order in which
they were, without their requirements on the names of those that are gone.

* `groupsAt`, `groupsOutside`, `remaining` — the groups at some positions, the others, and what is
  left of the others once those are gone;
* `removeEach` — removing groups one after the other;
* `exists_split_groupsOutside` — where a group stands while others are gone;
* `Valid.apply_remaining` — one removal, and `removeEach_remaining` — all of them;
* `removeEach_eq` — all orders come to the same.
-/

namespace JudgeDesk.TestGroup

variable {groups : List TestGroup} {g : TestGroup} {i : Nat} {n : String} {gone : Finset Nat}

/-! ### What is removed and what is left -/

/-- The groups at some positions, in order. -/
def groupsAt (groups : List TestGroup) (positions : Finset Nat) : List TestGroup :=
  (groups.zipIdx.filter fun p => p.2 ∈ positions).map (·.1)

/-- The groups at all other positions, in order. -/
def groupsOutside (groups : List TestGroup) (positions : Finset Nat) : List TestGroup :=
  (groups.zipIdx.filter fun p => p.2 ∉ positions).map (·.1)

/-- The names of the groups at some positions. -/
def namesAt (groups : List TestGroup) (positions : Finset Nat) : List String :=
  (groupsAt groups positions).map (·.name)

/-- A group without its requirements on some names. -/
def dropRequirements (names : List String) (g : TestGroup) : TestGroup :=
  { g with required := g.required.filter (· ∉ names) }

/-- **What is left** when the groups at some positions are gone: the others in order, without
requirements on the names of those. -/
def remaining (groups : List TestGroup) (gone : Finset Nat) : List TestGroup :=
  (groupsOutside groups gone).map (dropRequirements (namesAt groups gone))

/-- **Groups removed one after the other**, until one cannot be. The positions are those before the
first removal; each is lowered by the number of groups before it that are gone already. -/
def removeEach (groups : List TestGroup) (gone : Finset Nat) :
    List Nat → Except Error (List TestGroup)
  | [] => .ok groups
  | i :: rest => do
    let groups' ← apply groups (some (i - (gone.filter (· < i)).card)) .removeGroup
    removeEach groups' (insert i gone) rest

theorem mem_namesAt_iff :
    n ∈ namesAt groups gone ↔ ∃ i ∈ gone, ∃ g, groups[i]? = some g ∧ g.name = n := by
  simp only [namesAt, groupsAt, List.map_map, List.mem_map, List.mem_filter, decide_eq_true_eq,
    Function.comp_apply, Prod.exists, List.mem_zipIdx_iff_getElem?]
  constructor
  · rintro ⟨g, i, ⟨hg, hi⟩, hname⟩
    exact ⟨i, hi, g, hg, hname⟩
  · rintro ⟨i, hi, g, hg, hname⟩
    exact ⟨g, i, ⟨hg, hi⟩, hname⟩

theorem remaining_empty (groups : List TestGroup) : remaining groups ∅ = groups := by
  have hall : groupsOutside groups ∅ = groups := by
    simp [groupsOutside]
  have hnone : dropRequirements (namesAt groups ∅) = id := by
    funext g
    simp [dropRequirements, namesAt, groupsAt]
  rw [remaining, hall, hnone, List.map_id]

/-- How many of the first positions are left. -/
theorem length_filter_notMem_range (gone : Finset Nat) (n : Nat) :
    ((List.range n).filter (· ∉ gone)).length = n - (gone.filter (· < n)).card := by
  have hgone : gone.filter (· < n) = ((List.range n).filter (· ∈ gone)).toFinset := by
    ext k
    simp only [Finset.mem_filter, List.mem_toFinset, List.mem_filter, List.mem_range,
      decide_eq_true_eq, and_comm]
  have hsum := List.length_eq_length_filter_add (l := List.range n) (· ∈ gone)
  rw [hgone, List.toFinset_card_of_nodup (List.nodup_range.filter _)]
  simp only [List.length_range, ← decide_not] at hsum
  omega

/-- **Where a group stands while others are gone**: behind those that are left of the groups before
it. When it is gone as well, those before it and those behind it are left. -/
theorem exists_split_groupsOutside (hg : groups[i]? = some g) (hi : i ∉ gone) :
    ∃ front back, front.length = i - (gone.filter (· < i)).card ∧
      groupsOutside groups gone = front ++ g :: back ∧
      groupsOutside groups (insert i gone) = front ++ back := by
  obtain ⟨front, back, rfl, rfl⟩ := exists_split_of_getElem? hg
  have hzip : (front ++ g :: back).zipIdx =
      front.zipIdx ++ (g, front.length) :: back.zipIdx (front.length + 1) := by
    rw [List.zipIdx_append, List.zipIdx_cons, Nat.zero_add]
  -- the other groups stand at other positions
  have hne {p : TestGroup × Nat}
      (hp : p ∈ front.zipIdx ∨ p ∈ back.zipIdx (front.length + 1)) : p.2 ≠ front.length := by
    rcases hp with hp | hp
    · have := List.snd_lt_add_of_mem_zipIdx hp
      omega
    · have := List.le_snd_of_mem_zipIdx hp
      omega
  refine ⟨(front.zipIdx.filter fun p => p.2 ∉ gone).map (·.1),
    ((back.zipIdx (front.length + 1)).filter fun p => p.2 ∉ gone).map (·.1), ?_, ?_, ?_⟩
  · have hpositions : front.zipIdx.map (·.2) = List.range front.length := by
      rw [List.zipIdx_map_snd, List.range_eq_range']
    rw [← length_filter_notMem_range, ← hpositions, List.filter_map, List.length_map,
      List.length_map]
    rfl
  · rw [groupsOutside, hzip, List.filter_append, List.filter_cons_of_pos (by simpa using hi),
      List.map_append, List.map_cons]
  · have hkept {l : List (TestGroup × Nat)} (hl : ∀ p ∈ l, p.2 ≠ front.length) :
        l.filter (fun p => p.2 ∉ insert front.length gone) = l.filter fun p => p.2 ∉ gone :=
      List.filter_congr fun p hp => by simp [hl p hp]
    rw [groupsOutside, hzip, List.filter_append, List.filter_cons_of_neg (by simp),
      List.map_append, hkept fun p hp => hne (.inl hp), hkept fun p hp => hne (.inr hp)]

/-! ### Removing -/

/-- Removing a group among valid ones succeeds. -/
theorem Valid.apply_removeGroup (h : Valid groups) (hg : groups[i]? = some g) :
    TestGroup.apply groups (some i) .removeGroup =
      .ok ((groups.map (dropRequirement g.name)).eraseIdx i) := by
  have hlt : i < groups.length := (List.getElem?_eq_some_iff.mp hg).1
  exact (apply_some_eq_ok_iff (by simp)).mpr ⟨hlt, rfl, (h.sorted_remove hg).symm⟩

/-- When one group more is gone, its name is dropped as well. -/
theorem dropRequirements_namesAt_insert (hg : groups[i]? = some g) (g' : TestGroup) :
    dropRequirements (namesAt groups (insert i gone)) g' =
      dropRequirement g.name (dropRequirements (namesAt groups gone) g') := by
  have hmem (m : String) : m ∈ namesAt groups (insert i gone) ↔
      g.name = m ∨ m ∈ namesAt groups gone := by
    simp only [mem_namesAt_iff, Finset.exists_mem_insert, hg, Option.some.injEq, exists_eq_left']
  simp only [dropRequirements, dropRequirement, List.filter_filter]
  congr 1
  refine List.filter_congr fun m _ => ?_
  rw [← Bool.decide_and, decide_eq_decide, hmem, not_or, ne_comm]

/-- **A step.** A group is removed while others are gone already. -/
theorem Valid.apply_remaining (h : Valid (remaining groups gone)) (hg : groups[i]? = some g)
    (hi : i ∉ gone) :
    TestGroup.apply (remaining groups gone) (some (i - (gone.filter (· < i)).card)) .removeGroup =
      .ok (remaining groups (insert i gone)) := by
  obtain ⟨front, back, hlength, hbefore, hafter⟩ := exists_split_groupsOutside hg hi
  have hstands : (remaining groups gone)[front.length]? =
      some (dropRequirements (namesAt groups gone) g) := by
    rw [remaining, hbefore, List.getElem?_map, List.getElem?_append_right le_rfl, Nat.sub_self]
    rfl
  have hdrop : dropRequirement g.name ∘ dropRequirements (namesAt groups gone) =
      dropRequirements (namesAt groups (insert i gone)) :=
    funext fun g' => (dropRequirements_namesAt_insert hg g').symm
  have hleft : ((remaining groups gone).map (dropRequirement g.name)).eraseIdx front.length =
      remaining groups (insert i gone) := by
    rw [remaining, remaining, List.map_map, hdrop, hbefore, hafter, List.eraseIdx_map,
      List.eraseIdx_append_of_length_le le_rfl, Nat.sub_self, List.eraseIdx_cons_zero]
  rw [← hlength, h.apply_removeGroup hstands]
  exact congrArg Except.ok hleft

/-- **A run.** Groups are removed one after the other while others are gone already. -/
theorem removeEach_remaining {order : List Nat} (h : Valid (remaining groups gone))
    (hnodup : order.Nodup) (horder : ∀ i ∈ order, i < groups.length ∧ i ∉ gone) :
    removeEach (remaining groups gone) gone order =
      .ok (remaining groups (gone ∪ order.toFinset)) := by
  induction order generalizing gone with
  | nil => simp [removeEach]
  | cons i rest ih =>
    obtain ⟨hfirst, hrest⟩ := List.nodup_cons.mp hnodup
    obtain ⟨hlt, hi⟩ := horder i List.mem_cons_self
    have hstep := h.apply_remaining (List.getElem?_eq_getElem hlt) hi
    have hleft : ∀ j ∈ rest, j < groups.length ∧ j ∉ insert i gone := by
      intro j hj
      obtain ⟨hjlt, hjgone⟩ := horder j (List.mem_cons_of_mem i hj)
      refine ⟨hjlt, fun hmem => ?_⟩
      rcases Finset.mem_insert.mp hmem with rfl | hmem
      · exact hfirst hj
      · exact hjgone hmem
    rw [removeEach, hstep, List.toFinset_cons, Finset.union_insert, ← Finset.insert_union]
    exact ih (h.apply hstep) hrest hleft

/-- **Groups may be removed in any order.** Valid groups are removed one after the other from some
positions, each of which is lowered by the number of groups before it that are gone already. All
orders succeed and leave the same: the other groups in the order in which they were, each without
its requirements on the names of those that are gone, and otherwise unchanged. -/
theorem removeEach_eq (h : Valid groups) {positions : Finset Nat}
    (hpositions : ∀ i ∈ positions, i < groups.length) {order : List Nat} (hnodup : order.Nodup)
    (horder : order.toFinset = positions) :
    removeEach groups ∅ order = .ok (remaining groups positions) := by
  have hall : ∀ i ∈ order, i < groups.length ∧ i ∉ (∅ : Finset Nat) := by
    intro i hi
    rw [← List.mem_toFinset, horder] at hi
    exact ⟨hpositions i hi, Finset.notMem_empty i⟩
  rw [← remaining_empty groups] at h
  have hrun := removeEach_remaining h hnodup hall
  rwa [remaining_empty, Finset.empty_union, horder] at hrun

/-- Groups of which two share a name and two require each other's namesake. -/
def interlocked : List TestGroup :=
  [{ name := "A" }, { name := "B", required := ["A"] }, { name := "A", required := ["A", "B"] },
    { name := "C", required := ["A", "B"] }, { name := "D", required := ["A", "B", "C"] }]

/-- Two groups are removed both ways round. A namesake of one of them is left, but is not required
any more. -/
theorem removeEach_eq_interlocked :
    Valid interlocked ∧ (∀ i ∈ ({0, 3} : Finset Nat), i < interlocked.length) ∧
      removeEach interlocked ∅ [3, 0] = .ok (remaining interlocked {0, 3}) ∧
      removeEach interlocked ∅ [0, 3] = .ok (remaining interlocked {0, 3}) ∧
      remaining interlocked {0, 3} =
        [{ name := "B" }, { name := "A", required := ["B"] }, { name := "D", required := ["B"] }] := by
  have hvalid : Valid interlocked := by
    have hnormal : normalize interlocked = interlocked := by decide
    exact hnormal ▸ valid_normalize interlocked
  have hpositions : ∀ i ∈ ({0, 3} : Finset Nat), i < interlocked.length := by decide
  exact ⟨hvalid, hpositions, removeEach_eq hvalid hpositions (by decide) (by decide),
    removeEach_eq hvalid hpositions (by decide) (by decide), by decide⟩

end JudgeDesk.TestGroup
