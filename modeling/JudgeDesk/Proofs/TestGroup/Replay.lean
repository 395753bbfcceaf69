import JudgeDesk.Proofs.TestGroup.Validity

/-!
# Requirements entered one by one

Swapping in test groups makes their requirements normal all at once. The same comes of taking all
requirements away and entering them again one by one, in any order, if those that are refused are
passed over: what is accepted does not depend on what else was, and the sorting after each step
leaves no trace of the order of entry.

* `attempt` — the groups after an action, refused or not;
* `mentions`, `replay` — all requirements of some groups, and entering requirements one by one;
* `Valid.eq_of_mem_iff` — valid requirements are determined by the names that are among them;
* `mem_requiredAt_enter`, `mem_requiredAt_replay` — the names that are among the requirements after
  one entry and after all of them;
* `replay_eq_normalize` — all at once and one by one come to the same.
-/

namespace JudgeDesk.TestGroup

variable {groups groups' : List TestGroup} {i : Nat} {n : String}

/-! ### Requirements by position -/

/-- A group without requirements. -/
def bare (g : TestGroup) : TestGroup := { g with required := [] }

/-- What the group at a position requires. -/
def requiredAt (groups : List TestGroup) (i : Nat) : List String :=
  (groups[i]?.map (·.required)).getD []

theorem requiredAt_of_getElem? {g : TestGroup} (h : groups[i]? = some g) :
    requiredAt groups i = g.required := by
  rw [requiredAt, h]
  rfl

theorem mem_requiredAt_iff :
    n ∈ requiredAt groups i ↔ ∃ g, groups[i]? = some g ∧ n ∈ g.required := by
  rcases h : groups[i]? with _ | g
  · simp [requiredAt, h]
  · simp [requiredAt, h]

/-- Candidates by position: what may be required there and is not. -/
theorem mem_candidates_iff_requiredAt :
    n ∈ candidates groups i ↔
      i < groups.length ∧ mayRequire groups i n = true ∧ n ∉ requiredAt groups i := by
  rw [mem_candidates_iff]
  constructor
  · rintro ⟨g, hg, hmay, hnew⟩
    rw [← requiredAt_of_getElem? hg] at hnew
    exact ⟨(List.getElem?_eq_some_iff.mp hg).1, hmay, hnew⟩
  · rintro ⟨hlt, hmay, hnew⟩
    have hg : groups[i]? = some groups[i] := List.getElem?_eq_getElem hlt
    rw [requiredAt_of_getElem? hg] at hnew
    exact ⟨groups[i], hg, hmay, hnew⟩

/-- Groups that differ in requirements only have the same faces. -/
theorem map_face_eq_of_bare (h : groups.map bare = groups'.map bare) :
    groups.map face = groups'.map face := by
  have hface (gs : List TestGroup) : (gs.map bare).map face = gs.map face := by
    rw [List.map_map]
    rfl
  rw [← hface groups, ← hface groups', h]

theorem length_eq_of_bare (h : groups.map bare = groups'.map bare) :
    groups.length = groups'.length := by
  simpa only [List.length_map] using congrArg List.length h

/-- When the requirements of one group change and all are sorted, nothing else changes. -/
theorem map_bare_sorted_modify (groups : List TestGroup) (i : Nat) {f : TestGroup → TestGroup}
    (hf : ∀ g, bare (f g) = bare g) : (sorted (groups.modify i f)).map bare = groups.map bare := by
  rw [sorted, List.map_map]
  exact map_modify_eq_map bare hf i

/-- Names in strict order of rank are determined by which they are. -/
theorem eq_of_increasing {l l' : List String}
    (h : l.Pairwise fun a b => rank groups a < rank groups b)
    (h' : l'.Pairwise fun a b => rank groups a < rank groups b) (hmem : ∀ n, n ∈ l ↔ n ∈ l') :
    l = l' := by
  have hne {a b : String} (hab : rank groups a < rank groups b) : a ≠ b := by
    rintro rfl
    exact lt_irrefl _ hab
  have hperm : l.Perm l' := (List.perm_ext_iff_of_nodup (h.imp hne) (h'.imp hne)).mpr hmem
  exact hperm.eq_of_pairwise (fun _ _ _ _ hab hba => absurd hab hba.asymm) h h'

/-- **Valid requirements are determined by the names that are among them.** -/
theorem Valid.eq_of_mem_iff (h : Valid groups) (h' : Valid groups')
    (hbare : groups.map bare = groups'.map bare)
    (hmem : ∀ i n, n ∈ requiredAt groups i ↔ n ∈ requiredAt groups' i) : groups = groups' := by
  refine List.ext_getElem (length_eq_of_bare hbare) fun i hi hi' => ?_
  have hg : groups[i]? = some groups[i] := List.getElem?_eq_getElem hi
  have hg' : groups'[i]? = some groups'[i] := List.getElem?_eq_getElem hi'
  have hrest : bare groups[i] = bare groups'[i] := by
    simpa only [List.getElem?_map, hg, hg', Option.map_some, Option.some.injEq] using
      congrArg (·[i]?) hbare
  have hrequired : groups[i].required = groups'[i].required := by
    refine eq_of_increasing (h i _ hg).increasing ?_ fun n => ?_
    · refine (h' i _ hg').increasing.imp fun {a b} hab => ?_
      have hfaces := map_face_eq_of_bare hbare
      rw [rank_eq_of_faces hfaces, rank_eq_of_faces hfaces]
      exact hab
    · rw [← requiredAt_of_getElem? hg, ← requiredAt_of_getElem? hg']
      exact hmem i n
  have hfields (g : TestGroup) : g = { bare g with required := g.required } := rfl
  rw [hfields groups[i], hfields groups'[i], hrest, hrequired]

/-! ### One entry -/

/-- **The groups after an action**; an action that is refused leaves them as they were. -/
def attempt (groups : List TestGroup) (index : Option Nat) (action : GroupAction) :
    List TestGroup :=
  match apply groups index action with
  | .ok groups' => groups'
  | .error _ => groups

/-- A requirement is entered at a position, or refused. -/
def enter (groups : List TestGroup) (entry : Nat × String) : List TestGroup :=
  attempt groups (some entry.1) (.addRequired entry.2)

/-- **A requirement is accepted if it is a candidate**, and not otherwise. -/
theorem apply_addRequired_eq_ok_iff :
    apply groups (some i) (.addRequired n) = .ok groups' ↔
      n ∈ candidates groups i ∧ groups' = sorted (perform groups i (.addRequired n)) := by
  rw [apply_some_eq_ok_iff (by simp), guard_addRequired_eq_ok_iff, and_iff_right_of_imp]
  rintro ⟨hn, -⟩
  exact (mem_candidates_iff_requiredAt.mp hn).1

theorem apply_addRequired (h : n ∈ candidates groups i) :
    apply groups (some i) (.addRequired n) = .ok (sorted (perform groups i (.addRequired n))) :=
  apply_addRequired_eq_ok_iff.mpr ⟨h, rfl⟩

/-- **What an entry does**: a candidate is put behind the requirements that are there, which are
sorted then; any other name is passed over. -/
theorem enter_eq (groups : List TestGroup) (i : Nat) (n : String) :
    enter groups (i, n) =
      if n ∈ candidates groups i then sorted (perform groups i (.addRequired n)) else groups := by
  unfold enter attempt
  split_ifs with hn
  · rw [apply_addRequired hn]
  · split
    · next groups' happly => exact absurd (apply_addRequired_eq_ok_iff.mp happly).1 hn
    · rfl

theorem map_bare_enter (groups : List TestGroup) (entry : Nat × String) :
    (enter groups entry).map bare = groups.map bare := by
  obtain ⟨i, n⟩ := entry
  rw [enter_eq]
  split_ifs
  · exact map_bare_sorted_modify groups i fun _ => rfl
  · rfl

theorem Valid.enter (h : Valid groups) (entry : Nat × String) : Valid (enter groups entry) := by
  unfold TestGroup.enter attempt
  split
  · next groups' happly => exact h.apply happly
  · exact h

/-- The names among the requirements are the same after sorting. -/
theorem mem_requiredAt_sorted : n ∈ requiredAt (sorted groups) i ↔ n ∈ requiredAt groups i := by
  rw [mem_requiredAt_iff, mem_requiredAt_iff]
  simp only [sorted, List.getElem?_map, Option.map_eq_some_iff, exists_exists_and_eq_and,
    (perm_sortByRank _).mem_iff]

theorem mem_requiredAt_addRequired {j : Nat} {m : String} :
    m ∈ requiredAt (perform groups i (.addRequired n)) j ↔
      m ∈ requiredAt groups j ∨ (j = i ∧ m = n ∧ i < groups.length) := by
  rw [mem_requiredAt_iff, mem_requiredAt_iff]
  simp only [perform, List.getElem?_modify, Option.map_eq_map, Option.map_eq_some_iff,
    exists_exists_and_eq_and]
  by_cases hij : i = j
  · subst hij
    simp only [if_true, List.mem_append, List.mem_singleton, and_or_left, exists_or, true_and]
    refine or_congr_right ⟨?_, ?_⟩
    · rintro ⟨g, hg, hm⟩
      exact ⟨hm, (List.getElem?_eq_some_iff.mp hg).1⟩
    · rintro ⟨hm, hlt⟩
      exact ⟨groups[i], List.getElem?_eq_getElem hlt, hm⟩
  · simp only [if_neg hij, Ne.symm hij, false_and, or_false]

/-- **What is required after an entry**: what was required before, and the name that was entered if
it may be required there. -/
theorem mem_requiredAt_enter {entry : Nat × String} :
    n ∈ requiredAt (enter groups entry) i ↔
      n ∈ requiredAt groups i ∨
        ((i, n) = entry ∧ i < groups.length ∧ mayRequire groups i n = true) := by
  obtain ⟨j, m⟩ := entry
  rw [enter_eq, Prod.mk.injEq]
  split_ifs with hm
  · obtain ⟨g, hg, hmay, -⟩ := mem_candidates_iff.mp hm
    rw [mem_requiredAt_sorted, mem_requiredAt_addRequired]
    refine or_congr_right ⟨?_, ?_⟩
    · rintro ⟨rfl, rfl, hlt⟩
      exact ⟨⟨rfl, rfl⟩, hlt, hmay⟩
    · rintro ⟨⟨rfl, rfl⟩, hlt, -⟩
      exact ⟨rfl, rfl, hlt⟩
  · -- a name that may be required and is refused is required already
    refine ⟨.inl, ?_⟩
    rintro (hold | ⟨⟨rfl, rfl⟩, hlt, hmay⟩)
    · exact hold
    · by_contra hnew
      exact hm (mem_candidates_iff_requiredAt.mpr ⟨hlt, hmay, hnew⟩)

/-! ### Entries one by one -/

/-- **Replay**: requirements are entered one by one, and those that are refused are passed over. -/
def replay (groups : List TestGroup) (entries : List (Nat × String)) : List TestGroup :=
  entries.foldl enter groups

theorem map_bare_replay (entries : List (Nat × String)) :
    (replay groups entries).map bare = groups.map bare := by
  induction entries generalizing groups with
  | nil => rfl
  | cons entry rest ih => exact ih.trans (map_bare_enter groups entry)

theorem Valid.replay (h : Valid groups) (entries : List (Nat × String)) :
    Valid (replay groups entries) := by
  induction entries generalizing groups with
  | nil => exact h
  | cons entry rest ih => exact ih (h.enter entry)

/-- **What is required after a replay**: what was required before, and the names that were entered
where they may be required. -/
theorem mem_requiredAt_replay (entries : List (Nat × String)) :
    n ∈ requiredAt (replay groups entries) i ↔
      n ∈ requiredAt groups i ∨
        ((i, n) ∈ entries ∧ i < groups.length ∧ mayRequire groups i n = true) := by
  induction entries generalizing groups with
  | nil => simp [replay]
  | cons entry rest ih =>
    -- an entry leaves the faces alone, and so what may be required
    have hbare : (enter groups entry).map bare = groups.map bare := map_bare_enter groups entry
    have hlength : (enter groups entry).length = groups.length := length_eq_of_bare hbare
    change n ∈ requiredAt (replay (enter groups entry) rest) i ↔ _
    rw [ih, mem_requiredAt_enter, hlength, mayRequire_eq_of_faces (map_face_eq_of_bare hbare),
      or_assoc, ← or_and_right, List.mem_cons]

/-- **Mentions.** All requirements of some groups, each with the position of the group that has
it. -/
def mentions (groups : List TestGroup) : List (Nat × String) :=
  (groups.mapIdx fun i g => g.required.map fun n => (i, n)).flatten

theorem mem_mentions_iff : (i, n) ∈ mentions groups ↔ n ∈ requiredAt groups i := by
  rw [mentions, List.mem_flatten, mem_requiredAt_iff]
  constructor
  · rintro ⟨l, hl, hmem⟩
    obtain ⟨j, hj, rfl⟩ := List.mem_mapIdx.mp hl
    obtain ⟨m, hm, heq⟩ := List.mem_map.mp hmem
    obtain ⟨rfl, rfl⟩ := Prod.mk.inj heq
    exact ⟨groups[j], List.getElem?_eq_getElem hj, hm⟩
  · rintro ⟨g, hg, hn⟩
    obtain ⟨hlt, rfl⟩ := List.getElem?_eq_some_iff.mp hg
    exact ⟨_, List.mem_mapIdx.mpr ⟨i, hlt, rfl⟩, List.mem_map.mpr ⟨n, hn, rfl⟩⟩

/-! ### All at once -/

theorem map_bare_normalize (groups : List TestGroup) :
    (normalize groups).map bare = groups.map bare := by
  rw [normalize, sorted, List.map_map]
  exact map_mapIdx_eq_map bare fun _ _ => rfl

/-- **What is required once requirements are normal**: what was required before and may be. -/
theorem mem_requiredAt_normalize :
    n ∈ requiredAt (normalize groups) i ↔
      n ∈ requiredAt groups i ∧ mayRequire groups i n = true := by
  rw [normalize, mem_requiredAt_sorted, mem_requiredAt_iff, mem_requiredAt_iff]
  simp only [List.getElem?_mapIdx, Option.map_eq_some_iff, exists_exists_and_eq_and,
    mem_firstMentions, List.not_mem_nil, false_or, ← and_assoc, exists_and_right]

theorem valid_map_bare (groups : List TestGroup) : Valid (groups.map bare) := by
  intro i g' hg'
  rw [List.getElem?_map, Option.map_eq_some_iff] at hg'
  obtain ⟨g, -, rfl⟩ := hg'
  exact ⟨nofun, nofun, List.nodup_nil, List.Pairwise.nil⟩

/-- **All at once and one by one come to the same.** Normal requirements are those that are accepted
when all requirements are taken away and entered again, in whatever order. -/
theorem replay_eq_normalize (groups : List TestGroup) {entries : List (Nat × String)}
    (h : entries.Perm (mentions groups)) :
    replay (groups.map bare) entries = normalize groups := by
  have hbare : (groups.map bare).map bare = groups.map bare := by
    rw [List.map_map]
    rfl
  refine ((valid_map_bare groups).replay entries).eq_of_mem_iff (valid_normalize groups) ?_ ?_
  · rw [map_bare_replay, map_bare_normalize, hbare]
  · intro i n
    have hnone : n ∉ requiredAt (groups.map bare) i := by
      rw [mem_requiredAt_iff]
      rintro ⟨g', hg', hn⟩
      obtain ⟨g, -, rfl⟩ := Option.map_eq_some_iff.mp (List.getElem?_map .. ▸ hg')
      exact List.not_mem_nil hn
    have hlt (hn : n ∈ requiredAt groups i) : i < (groups.map bare).length := by
      obtain ⟨g, hg, -⟩ := mem_requiredAt_iff.mp hn
      rw [List.length_map]
      exact (List.getElem?_eq_some_iff.mp hg).1
    rw [mem_requiredAt_replay, mem_requiredAt_normalize, h.mem_iff, mem_mentions_iff,
      mayRequire_eq_of_faces (map_face_eq_of_bare hbare), or_iff_right hnone]
    exact and_congr_right fun hn => and_iff_right (hlt hn)

/-- Groups that share a name, and requirements that are repeated, out of order, on a group itself,
on a later one, on one that is scored otherwise and on none. -/
def entangled : List TestGroup :=
  [{ name := "A", required := ["B", "A"] },
    { name := "B", required := ["A", "A"] },
    { name := "A", required := ["ghost", "A", ""] },
    { name := "C", scoringType := .minScore },
    { name := "D", required := ["C", "B", "A", "B"] }]

/-- The requirements of `entangled`, entered from the last to the first. -/
theorem replay_entangled_backwards :
    (mentions entangled).reverse.Perm (mentions entangled) ∧
      requiredAt (normalize entangled) 4 = ["A", "B"] ∧
      replay (entangled.map bare) (mentions entangled).reverse = normalize entangled :=
  ⟨List.reverse_perm _, by decide, replay_eq_normalize entangled (List.reverse_perm _)⟩

end JudgeDesk.TestGroup
