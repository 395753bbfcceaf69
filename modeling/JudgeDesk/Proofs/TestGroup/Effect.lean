import JudgeDesk.Proofs.TestGroup.Order

/-!
# What an action does to the other groups

Every action ends with the sorting of all requirements. Among valid groups this changes nothing but
the place of a requirement that is new: what a purge leaves of a list stays in order, although
renaming or removing a group changes what the names rank.

* `rank_set`, `rank_eraseIdx` — ranks after a group was renamed or removed;
* `Ordered.purge`, `Ordered.set`, `Valid.ordered_rename`, `Ordered.remove` — what each kind of
  change leaves in order;
* `Effect` — the groups after an action, spelled out action by action;
* `effect_of_apply` — an action that is accepted has its effect, and no other.
-/

namespace JudgeDesk.TestGroup

variable {groups groups' : List TestGroup} {i : Nat} {g g' : TestGroup} {n name : String}

/-! ### Ranks -/

/-- A name ranks no later than a group that carries it stands. -/
theorem rank_le_of_getElem? (hg : groups[i]? = some g) : rank groups g.name ≤ i := by
  obtain ⟨hlt, rfl⟩ := List.getElem?_eq_some_iff.mp hg
  by_contra hlater
  have hother := List.not_of_lt_findIdx (Nat.lt_of_not_le hlater)
  simp at hother

/-- A group singled out: what stands before it, and what behind. -/
theorem exists_split_of_getElem? (hg : groups[i]? = some g) :
    ∃ front back, front.length = i ∧ groups = front ++ g :: back := by
  obtain ⟨hlt, rfl⟩ := List.getElem?_eq_some_iff.mp hg
  refine ⟨groups.take i, groups.drop (i + 1), List.length_take_of_le hlt.le, ?_⟩
  rw [← List.drop_eq_getElem_cons hlt, List.take_append_drop]

/-- Where a name ranks among groups of which one is singled out. -/
theorem rank_append_cons (front : List TestGroup) (g : TestGroup) (back : List TestGroup)
    (n : String) :
    rank (front ++ g :: back) n =
      if rank front n < front.length then rank front n
      else if g.name = n then front.length else rank back n + 1 + front.length := by
  rw [rank, List.findIdx_append, List.findIdx_cons]
  by_cases hn : g.name = n
  · simp [rank, hn]
  · simp [rank, hn]

/-- **A name keeps its rank when a group is renamed**, if an earlier group carries it, or if it is
neither the old name nor the new one. -/
theorem rank_set (hg : groups[i]? = some g)
    (hn : rank groups n < i ∨ (n ≠ g.name ∧ n ≠ g'.name)) :
    rank (groups.set i g') n = rank groups n := by
  obtain ⟨front, back, rfl, rfl⟩ := exists_split_of_getElem? hg
  rw [List.set_append_right _ _ le_rfl, Nat.sub_self, List.set_cons_zero]
  rw [rank_append_cons] at hn ⊢
  rw [rank_append_cons]
  split_ifs at hn ⊢ <;> grind

/-- A group that keeps its name leaves all ranks alone. -/
theorem rank_set_of_name_eq (hg : groups[i]? = some g) (hname : g'.name = g.name) (n : String) :
    rank (groups.set i g') n = rank groups n := by
  refine rank_eq_of_names ?_ n
  obtain ⟨front, back, rfl, rfl⟩ := exists_split_of_getElem? hg
  simp [hname]

/-- **A name other than that of a removed group** ranks as it did, or one less. -/
theorem rank_eraseIdx (hg : groups[i]? = some g) (hn : n ≠ g.name) :
    rank groups n ≠ i ∧
      rank (groups.eraseIdx i) n =
        if rank groups n < i then rank groups n else rank groups n - 1 := by
  obtain ⟨front, back, rfl, rfl⟩ := exists_split_of_getElem? hg
  have herase : rank (front ++ back) n =
      if rank front n < front.length then rank front n else rank back n + front.length :=
    List.findIdx_append
  rw [List.eraseIdx_append_of_length_le le_rfl, Nat.sub_self, List.eraseIdx_cons_zero, herase,
    rank_append_cons, if_neg hn.symm]
  split_ifs <;> omega

/-! ### What stays in order -/

/-- A purge leaves groups in order. -/
theorem Ordered.purge (h : Ordered groups) (owner : Nat) (name : String) :
    Ordered (purge owner name groups) := by
  refine h.of_rank fun g' hg' => ?_
  obtain ⟨k, hk, rfl⟩ := List.mem_mapIdx.mp hg'
  refine ⟨groups[k], List.getElem_mem hk, ?_, fun a _ b _ hab => ?_⟩
  · split
    · exact List.Sublist.refl _
    · exact List.filter_sublist
  · rwa [rank_eq_of_faces (map_face_purge owner name), rank_eq_of_faces (map_face_purge owner name)]

/-- A group that keeps its name and requires nothing new leaves groups in order. -/
theorem Ordered.set (h : Ordered groups) (hg : groups[i]? = some g) (hname : g'.name = g.name)
    (hsub : g'.required.Sublist g.required) : Ordered (groups.set i g') := by
  refine h.of_rank fun g₀ hg₀ => ?_
  have hrank (a b : String) (hab : rank groups a ≤ rank groups b) :
      rank (groups.set i g') a ≤ rank (groups.set i g') b := by
    rwa [rank_set_of_name_eq hg hname, rank_set_of_name_eq hg hname]
  rcases List.mem_or_eq_of_mem_set hg₀ with hmem | rfl
  · exact ⟨g₀, hmem, List.Sublist.refl _, fun a _ b _ => hrank a b⟩
  · exact ⟨g, List.mem_of_getElem? hg, hsub, fun a _ b _ => hrank a b⟩

/-- What a group requires ranks before it. -/
theorem ValidAt.rank_lt {names : List String} (h : ValidAt groups i names) (hn : n ∈ names) :
    rank groups n < i := by
  obtain ⟨j, hlt, g, hg, rfl, -⟩ := h.earlier n hn
  exact (rank_le_of_getElem? hg).trans_lt hlt

/-- A name that another group carries is taken, unless it is empty. -/
theorem isTaken_of_getElem? {j : Nat} (hg : groups[j]? = some g) (hj : j ≠ i)
    (hname : g.name ≠ "") : isTaken groups i g.name = true := by
  rw [isTaken, Bool.and_eq_true, decide_eq_true_eq, List.any_eq_true]
  exact ⟨hname, g, List.mem_eraseIdx_iff_getElem?.mpr ⟨j, hj, hg⟩, decide_eq_true rfl⟩

/-- All names rank the same when requirements are dropped. -/
theorem rank_map_dropRequirement (name : String) (groups : List TestGroup) (n : String) :
    rank (groups.map (dropRequirement name)) n = rank groups n := by
  refine rank_eq_of_names ?_ n
  rw [List.map_map]
  rfl

/-- **Renaming leaves valid groups in order**, after the purge of the old name. The group itself
requires names of groups before it, and the others require neither the old name nor the new one. -/
theorem Valid.ordered_rename (h : Valid groups) (hg : groups[i]? = some g)
    (hfree : isTaken groups i name = false) :
    Ordered ((groups.map (dropRequirement g.name)).set i { g with name }) := by
  have hg' : (groups.map (dropRequirement g.name))[i]? = some (dropRequirement g.name g) := by
    rw [List.getElem?_map, hg, Option.map_some]
  have hrank {n : String} (hn : rank groups n < i ∨ (n ≠ g.name ∧ n ≠ name)) :
      rank ((groups.map (dropRequirement g.name)).set i { g with name }) n = rank groups n := by
    rw [rank_set hg' (by rwa [rank_map_dropRequirement]), rank_map_dropRequirement]
  refine h.ordered.of_rank fun g₀ hg₀ => ?_
  obtain ⟨k, hk⟩ := List.mem_iff_getElem?.mp hg₀
  rw [List.getElem?_set] at hk
  split_ifs at hk with hik hlt
  · -- the group that is renamed
    obtain rfl := Option.some.inj hk
    refine ⟨g, List.mem_of_getElem? hg, List.Sublist.refl _, fun a ha b hb hab => ?_⟩
    rwa [hrank (.inl ((h i g hg).rank_lt ha)), hrank (.inl ((h i g hg).rank_lt hb))]
  · -- another group
    rw [List.getElem?_map, Option.map_eq_some_iff] at hk
    obtain ⟨g₁, hg₁, rfl⟩ := hk
    have hother {n : String} (hn : n ∈ (dropRequirement g.name g₁).required) :
        n ≠ g.name ∧ n ≠ name := by
      obtain ⟨hmem, hne⟩ := List.mem_filter.mp hn
      refine ⟨of_decide_eq_true hne, ?_⟩
      rintro rfl
      obtain ⟨j, -, g₂, hg₂, rfl, -⟩ := (h k g₁ hg₁).earlier n hmem
      have hj : j ≠ i := by
        rintro rfl
        rw [hg] at hg₂
        exact of_decide_eq_true hne (congrArg (·.name) (Option.some.inj hg₂)).symm
      rw [isTaken_of_getElem? hg₂ hj ((h k g₁ hg₁).named _ hmem)] at hfree
      cases hfree
    refine ⟨g₁, List.mem_of_getElem? hg₁, List.filter_sublist, fun a ha b hb hab => ?_⟩
    rwa [hrank (.inr (hother ha)), hrank (.inr (hother hb))]

/-- **Removing a group leaves groups in order**, after the purge of its name. -/
theorem Ordered.remove (h : Ordered groups) (hg : groups[i]? = some g) :
    Ordered ((groups.map (dropRequirement g.name)).eraseIdx i) := by
  have hg' : (groups.map (dropRequirement g.name))[i]? = some (dropRequirement g.name g) := by
    rw [List.getElem?_map, hg, Option.map_some]
  refine h.of_rank fun g₀ hg₀ => ?_
  obtain ⟨g₁, hg₁, rfl⟩ := List.mem_map.mp (List.mem_of_mem_eraseIdx hg₀)
  refine ⟨g₁, hg₁, List.filter_sublist, fun a ha b hb hab => ?_⟩
  have hother {n : String} (hn : n ∈ (dropRequirement g.name g₁).required) : n ≠ g.name :=
    of_decide_eq_true (List.mem_filter.mp hn).2
  obtain ⟨hane, harank⟩ := rank_eraseIdx hg' (hother ha)
  obtain ⟨hbne, hbrank⟩ := rank_eraseIdx hg' (hother hb)
  rw [harank, hbrank]
  rw [rank_map_dropRequirement] at hane hbne ⊢
  rw [rank_map_dropRequirement]
  split_ifs <;> omega

/-- A group without requirements may be put behind valid groups. -/
theorem Valid.ordered_append (h : Valid groups) (hreq : g.required = []) :
    Ordered (groups ++ [g]) := by
  intro g₀ hg₀
  rcases List.mem_append.mp hg₀ with hmem | hmem
  · obtain ⟨k, hk⟩ := List.mem_iff_getElem?.mp hmem
    have hrank {n : String} (hn : n ∈ g₀.required) : rank (groups ++ [g]) n = rank groups n := by
      have hlt : rank groups n < groups.length :=
        ((h k g₀ hk).rank_lt hn).trans (List.getElem?_eq_some_iff.mp hk).1
      exact List.findIdx_append.trans (if_pos hlt)
    refine (h.ordered g₀ hmem).imp_of_mem fun {a b} ha hb hab => ?_
    rwa [hrank ha, hrank hb]
  · rw [List.mem_singleton.mp hmem, hreq]
    exact List.Pairwise.nil

/-- **A new requirement finds its place** among valid ones: behind those that rank lower, and before
those that rank higher. -/
theorem CoherentAt.exists_sortByRank_concat {names : List String}
    (h : CoherentAt groups i (names ++ [n]))
    (hnames : names.Pairwise fun a b => rank groups a < rank groups b) :
    ∃ lower higher, names = lower ++ higher ∧
      sortByRank groups (names ++ [n]) = lower ++ n :: higher ∧
      (∀ m ∈ lower, rank groups m < rank groups n) ∧
      ∀ m ∈ higher, rank groups n < rank groups m := by
  have hperm : (sortByRank groups (names ++ [n])).Perm (names ++ [n]) := perm_sortByRank _
  have hmem : n ∈ sortByRank groups (names ++ [n]) :=
    hperm.mem_iff.mpr (List.mem_append_right names List.mem_cons_self)
  have hsorted := h.increasing_sortByRank
  obtain ⟨lower, higher, hsplit⟩ := List.append_of_mem hmem
  rw [hsplit] at hperm hsorted
  have hrest : (lower ++ higher).Pairwise fun a b => rank groups a < rank groups b :=
    hsorted.sublist ((List.Sublist.refl lower).append (List.sublist_cons_self n higher))
  have hold : (lower ++ higher).Perm names :=
    (List.perm_cons n).mp
      ((List.perm_middle.symm.trans hperm).trans (List.perm_append_singleton n names))
  obtain ⟨-, hhigher, hlower⟩ := List.pairwise_append.mp hsorted
  refine ⟨lower, higher, ?_, hsplit, fun m hm => hlower m hm n List.mem_cons_self,
    (List.pairwise_cons.mp hhigher).1⟩
  exact (hold.eq_of_pairwise (fun _ _ _ _ hab hba => absurd hab hba.asymm) hrest hnames).symm

/-! ### Changes in place -/

theorem modify_of_getElem? (hg : groups[i]? = some g) (f : TestGroup → TestGroup) :
    groups.modify i f = groups.set i (f g) := by
  rw [List.modify_eq_set_getElem?, hg]
  rfl

theorem set_self_of_getElem? (hg : groups[i]? = some g) : groups.set i g = groups := by
  obtain ⟨hlt, rfl⟩ := List.getElem?_eq_some_iff.mp hg
  exact List.set_getElem_self hlt

/-- A purge drops a name from all lists but that of its owner. -/
theorem purge_eq_set (hg : groups[i]? = some g) (name : String) :
    purge i name groups = (groups.map (dropRequirement name)).set i g := by
  refine List.ext_getElem? fun k => ?_
  rw [getElem?_purge, List.getElem?_set, List.getElem?_map, List.length_map]
  by_cases hk : i = k
  · subst hk
    obtain ⟨hlt, rfl⟩ := List.getElem?_eq_some_iff.mp hg
    simp [hlt]
  · simp [hk, Ne.symm hk]

theorem getElem?_purge_self (hg : groups[i]? = some g) (name : String) :
    (purge i name groups)[i]? = some g := by
  rw [getElem?_purge, hg, Option.map_some, if_pos rfl]

/-- A group that is scored in some way from now on; scores of another kind of scoring are gone. -/
def scoredBy (g : TestGroup) (kind : ScoringType) : TestGroup :=
  { (if g.scoringType = kind then g else g.withoutScores) with scoringType := kind }

@[simp] theorem name_scoredBy (g : TestGroup) (kind : ScoringType) :
    (g.scoredBy kind).name = g.name := by
  rw [scoredBy]
  split <;> rfl

@[simp] theorem required_scoredBy (g : TestGroup) (kind : ScoringType) :
    (g.scoredBy kind).required = g.required := by
  rw [scoredBy]
  split <;> rfl

/-! ### Actions -/

/-- **What an action does to the groups**: which of them it changes, and in what. What a list of
requirements loses is taken out of it, and what it gains is put in; the rest of it stays as it
is. -/
inductive Effect (groups : List TestGroup) :
    Option Nat → GroupAction → List TestGroup → Prop where
  /-- a new group stands behind all others, which do not change -/
  | addGroup {index : Option Nat} : Effect groups index .addGroup (groups ++ [({} : TestGroup)])
  /-- a group that is renamed changes in its name only, and the others no longer require the old
  one -/
  | renamed {i : Nat} {g : TestGroup} {name : String} (hg : groups[i]? = some g)
    (hnew : g.name ≠ name) (hfree : isTaken groups i name = false) :
    Effect groups (some i) (.setName name)
      ((groups.map (dropRequirement g.name)).set i { g with name })
  /-- nothing changes if the name is the old one, or that of another group -/
  | nameKept {i : Nat} {g : TestGroup} {name : String} (hg : groups[i]? = some g)
    (hkept : g.name = name ∨ isTaken groups i name = true) :
    Effect groups (some i) (.setName name) groups
  /-- one group changes in its first test only, and not even there if no number was typed -/
  | setFirstTest {i : Nat} {g : TestGroup} {raw : String} (hg : groups[i]? = some g) :
    Effect groups (some i) (.setFirstTest raw)
      (groups.set i { g with firstTest := (typedNumber? raw).getD g.firstTest })
  /-- one group changes in its last test only, and not even there if no number was typed -/
  | setLastTest {i : Nat} {g : TestGroup} {raw : String} (hg : groups[i]? = some g) :
    Effect groups (some i) (.setLastTest raw)
      (groups.set i { g with lastTest := (typedNumber? raw).getD g.lastTest })
  /-- a group that is to be scored as a whole changes in scoring only, and no other one changes -/
  | madeComplete {i : Nat} {g : TestGroup} {raw : String} (hg : groups[i]? = some g)
    (hkind : Coded.ofText? raw = some ScoringType.complete) :
    Effect groups (some i) (.setScoringType raw) (groups.set i (g.scoredBy .complete))
  /-- a group that is to be scored otherwise changes in scoring only, and the others no longer
  require its name -/
  | madeIncomplete {i : Nat} {g : TestGroup} {raw : String} {kind : ScoringType}
    (hg : groups[i]? = some g) (hkind : Coded.ofText? raw = some kind) (hother : kind ≠ .complete) :
    Effect groups (some i) (.setScoringType raw)
      ((groups.map (dropRequirement g.name)).set i (g.scoredBy kind))
  /-- nothing changes if no kind of scoring was typed -/
  | scoringKept {i : Nat} {g : TestGroup} {raw : String} (hg : groups[i]? = some g)
    (hkind : Coded.ofText? (α := ScoringType) raw = none) :
    Effect groups (some i) (.setScoringType raw) groups
  /-- one group changes in its feedback only, and not even there if no kind of it was typed -/
  | setFeedbackType {i : Nat} {g : TestGroup} {raw : String} (hg : groups[i]? = some g) :
    Effect groups (some i) (.setFeedbackType raw)
      (groups.set i { g with feedbackType := (Coded.ofText? raw).getD g.feedbackType })
  /-- one group changes in its scores only -/
  | setScore {i : Nat} {g : TestGroup} {raw : String} (hg : groups[i]? = some g) :
    Effect groups (some i) (.setScore raw)
      (groups.set i { g with score := typedScore? raw, testScore := none })
  /-- one group changes in its scores only -/
  | setTestScore {i : Nat} {g : TestGroup} {raw : String} (hg : groups[i]? = some g) :
    Effect groups (some i) (.setTestScore raw)
      (groups.set i { g with score := none, testScore := typedScore? raw })
  /-- one group requires one name more, which stands between those that rank lower and those that
  rank higher -/
  | addRequired {i : Nat} {g : TestGroup} {name : String} {lower higher : List String}
    (hg : groups[i]? = some g) (hsplit : g.required = lower ++ higher)
    (hlower : ∀ n ∈ lower, rank groups n < rank groups name)
    (hhigher : ∀ n ∈ higher, rank groups name < rank groups n) :
    Effect groups (some i) (.addRequired name)
      (groups.set i { g with required := lower ++ name :: higher })
  /-- one group requires one name less -/
  | removeRequired {i : Nat} {g : TestGroup} {name : String} (hg : groups[i]? = some g) :
    Effect groups (some i) (.removeRequired name) (groups.set i (dropRequirement name g))
  /-- a group is gone, and the others, in the order in which they were, no longer require its
  name -/
  | removeGroup {i : Nat} {g : TestGroup} (hg : groups[i]? = some g) :
    Effect groups (some i) .removeGroup ((groups.map (dropRequirement g.name)).eraseIdx i)

/-- A group that keeps its name is sorted on its own. -/
theorem sorted_set (hg : groups[i]? = some g) (hname : g'.name = g.name) :
    sorted (groups.set i g') =
      (sorted groups).set i { g' with required := sortByRank groups g'.required } := by
  have hsort := sortByRank_eq_of_rank (rank_set_of_name_eq hg hname)
  simp only [sorted, List.map_set, hsort]

/-- A group that keeps its name and requires nothing new is left alone by the sorting. -/
theorem Valid.sorted_eq_set (h : Valid groups) (hg : groups[i]? = some g)
    (hset : groups' = groups.set i g') (hname : g'.name = g.name)
    (hsub : g'.required.Sublist g.required) : sorted groups' = groups.set i g' := by
  rw [hset]
  exact sorted_of_ordered (h.ordered.set hg hname hsub)

/-- **Renaming** a group among valid ones. -/
theorem Valid.effect_setName (h : Valid groups) (hg : groups[i]? = some g) (name : String) :
    Effect groups (some i) (.setName name) (sorted (rename groups i name)) := by
  simp only [rename, hg]
  split_ifs with hkept
  · rw [sorted_of_ordered h.ordered]
    exact .nameKept hg hkept
  · rw [not_or, Bool.not_eq_true] at hkept
    rw [modify_of_getElem? (getElem?_purge_self hg _), purge_eq_set hg, List.set_set,
      sorted_of_ordered (h.ordered_rename hg hkept.2)]
    exact .renamed hg hkept.1 hkept.2

/-- **Changing the scoring** of a group among valid ones. -/
theorem Valid.effect_setScoringType (h : Valid groups) (hg : groups[i]? = some g) {raw : String}
    {kind : ScoringType} (hkind : Coded.ofText? raw = some kind) :
    Effect groups (some i) (.setScoringType raw) (sorted (rescore groups i kind)) := by
  have hname : (g.scoredBy kind).name = g.name := name_scoredBy g kind
  have hsub : (g.scoredBy kind).required.Sublist g.required := by
    rw [required_scoredBy]
  simp only [rescore, hg]
  by_cases hcomplete : kind = .complete
  · subst hcomplete
    rw [if_pos rfl, h.sorted_eq_set hg (modify_of_getElem? hg _) hname hsub]
    exact .madeComplete hg hkind
  · -- after the purge the group is still there with all it requires
    have hself := getElem?_purge_self hg g.name
    have hordered := (h.ordered.purge i g.name).set hself hname hsub
    have hsorted := sorted_of_ordered hordered
    rw [purge_eq_set hg, List.set_set] at hsorted
    rw [if_neg hcomplete, modify_of_getElem? hself, purge_eq_set hg, List.set_set]
    exact hsorted.symm ▸ .madeIncomplete hg hkind hcomplete

/-- **Requiring one name more** among valid groups. -/
theorem Valid.effect_addRequired (h : Valid groups) (hg : groups[i]? = some g)
    (hname : name ∈ candidates groups i) :
    Effect groups (some i) (.addRequired name)
      (sorted (perform groups i (.addRequired name))) := by
  obtain ⟨g₀, hg₀, hmay, hnew⟩ := mem_candidates_iff.mp hname
  obtain rfl : g₀ = g := Option.some.inj (hg₀.symm.trans hg)
  obtain ⟨lower, higher, hsplit, hsort, hlower, hhigher⟩ :=
    ((h i g₀ hg).coherentAt.concat hmay hnew).exists_sortByRank_concat (h i g₀ hg).increasing
  have hname₀ : ({ g₀ with required := g₀.required ++ [name] } : TestGroup).name = g₀.name := rfl
  rw [perform, modify_of_getElem? hg, sorted_set hg hname₀, sorted_of_ordered h.ordered, hsort]
  exact .addRequired (g := g₀) hg hsplit hlower hhigher

/-- **Requiring one name less** among valid groups. -/
theorem Valid.effect_removeRequired (h : Valid groups) (hg : groups[i]? = some g) (name : String) :
    Effect groups (some i) (.removeRequired name)
      (sorted (perform groups i (.removeRequired name))) := by
  have hset : perform groups i (.removeRequired name) =
      groups.set i (dropRequirement name g) := by
    have herase : g.required.erase name = g.required.filter (· ≠ name) := by
      rw [(h i g hg).nodup.erase_eq_filter]
      exact List.filter_congr fun n _ => by
        simp only [ne_eq, decide_not, bne, beq_eq_decide]
    rw [perform, modify_of_getElem? hg, herase]
    rfl
  rw [h.sorted_eq_set hg hset rfl List.filter_sublist]
  exact .removeRequired hg

/-- What the purge leaves when a group among valid ones is removed is in order. -/
theorem Valid.sorted_remove (h : Valid groups) (hg : groups[i]? = some g) :
    sorted (remove groups i) = (groups.map (dropRequirement g.name)).eraseIdx i := by
  simp only [remove, hg]
  rw [purge_eq_set hg, List.eraseIdx_set_eq, sorted_of_ordered (h.ordered.remove hg)]

/-- **Removing** a group among valid ones. -/
theorem Valid.effect_removeGroup (h : Valid groups) (hg : groups[i]? = some g) :
    Effect groups (some i) .removeGroup (sorted (remove groups i)) := by
  rw [h.sorted_remove hg]
  exact .removeGroup hg

/-- **What an action does to a group among valid ones.** -/
theorem Valid.effect_perform (h : Valid groups) (hg : groups[i]? = some g) {action : GroupAction}
    (haction : action ≠ .addGroup) (hguard : guard groups i action = .ok ()) :
    Effect groups (some i) action (sorted (perform groups i action)) := by
  cases action with
  | addGroup => exact absurd rfl haction
  | setName name => exact h.effect_setName hg name
  | setFirstTest raw =>
    have hset : perform groups i (.setFirstTest raw) =
        groups.set i { g with firstTest := (typedNumber? raw).getD g.firstTest } := by
      rw [perform]
      rcases typedNumber? raw with _ | x
      · exact (set_self_of_getElem? hg).symm
      · exact modify_of_getElem? hg _
    rw [h.sorted_eq_set hg hset rfl (List.Sublist.refl _)]
    exact .setFirstTest hg
  | setLastTest raw =>
    have hset : perform groups i (.setLastTest raw) =
        groups.set i { g with lastTest := (typedNumber? raw).getD g.lastTest } := by
      rw [perform]
      rcases typedNumber? raw with _ | x
      · exact (set_self_of_getElem? hg).symm
      · exact modify_of_getElem? hg _
    rw [h.sorted_eq_set hg hset rfl (List.Sublist.refl _)]
    exact .setLastTest hg
  | setScoringType raw =>
    rw [perform]
    rcases hkind : Coded.ofText? (α := ScoringType) raw with _ | kind
    · rw [sorted_of_ordered h.ordered]
      exact .scoringKept hg hkind
    · exact h.effect_setScoringType hg hkind
  | setFeedbackType raw =>
    have hset : perform groups i (.setFeedbackType raw) =
        groups.set i { g with feedbackType := (Coded.ofText? raw).getD g.feedbackType } := by
      rw [perform]
      rcases Coded.ofText? (α := FeedbackType) raw with _ | x
      · exact (set_self_of_getElem? hg).symm
      · exact modify_of_getElem? hg _
    rw [h.sorted_eq_set hg hset rfl (List.Sublist.refl _)]
    exact .setFeedbackType hg
  | setScore raw =>
    have hset : perform groups i (.setScore raw) =
        groups.set i { g with score := typedScore? raw, testScore := none } :=
      modify_of_getElem? hg _
    rw [h.sorted_eq_set hg hset rfl (List.Sublist.refl _)]
    exact .setScore hg
  | setTestScore raw =>
    have hset : perform groups i (.setTestScore raw) =
        groups.set i { g with score := none, testScore := typedScore? raw } :=
      modify_of_getElem? hg _
    rw [h.sorted_eq_set hg hset rfl (List.Sublist.refl _)]
    exact .setTestScore hg
  | addRequired name => exact h.effect_addRequired hg (guard_addRequired_eq_ok_iff.mp hguard)
  | removeRequired name => exact h.effect_removeRequired hg name
  | removeGroup => exact h.effect_removeGroup hg

/-- The target of an action that is accepted. -/
theorem target_eq_ok {index : Option Nat} {action : GroupAction}
    (h : target groups index action = .ok i) :
    (action = .addGroup ∧ i = groups.length) ∨
      (action ≠ .addGroup ∧ index = some i ∧ i < groups.length) := by
  unfold target at h
  split at h
  · exact .inl ⟨rfl, (Except.ok.inj h).symm⟩
  · next action j hother =>
    split at h
    · next hlt =>
      obtain rfl := Except.ok.inj h
      exact .inr ⟨fun heq => hother heq, rfl, hlt⟩
    · cases h
  · cases h

/-- **An action on valid groups that is accepted has its effect**, and does nothing else: where it
changes no list of requirements the sorting finds all of them in order, and what a purge leaves of a
list keeps its order. -/
theorem effect_of_apply (h : Valid groups) {index : Option Nat} {action : GroupAction}
    (happly : apply groups index action = .ok groups') : Effect groups index action groups' := by
  obtain ⟨i, htarget, hguard, rfl⟩ := apply_eq_ok happly
  rcases target_eq_ok htarget with ⟨rfl, rfl⟩ | ⟨haction, rfl, hlt⟩
  · rw [perform, sorted_of_ordered (h.ordered_append rfl)]
    exact .addGroup
  · exact h.effect_perform (List.getElem?_eq_getElem hlt) haction hguard

/-- Two groups share a name, and the second of them requires it. -/
def twins : List TestGroup :=
  [{ name := "A" }, { name := "B" }, { name := "A", required := ["A", "B"] },
    { name := "C", required := ["A", "B"] }]

/-- The second of the groups that share a name is renamed: it still requires the first one, and
nobody else does. -/
theorem effect_of_apply_twinRenamed :
    Valid twins ∧
      apply twins (some 2) (.setName "Z") =
        .ok [{ name := "A" }, { name := "B" }, { name := "Z", required := ["A", "B"] },
          { name := "C", required := ["B"] }] ∧
      Effect twins (some 2) (.setName "Z")
        [{ name := "A" }, { name := "B" }, { name := "Z", required := ["A", "B"] },
          { name := "C", required := ["B"] }] := by
  have hvalid : Valid twins := by
    have hnormal : normalize twins = twins := by decide
    exact hnormal ▸ valid_normalize twins
  exact ⟨hvalid, rfl, effect_of_apply hvalid rfl⟩

end JudgeDesk.TestGroup
