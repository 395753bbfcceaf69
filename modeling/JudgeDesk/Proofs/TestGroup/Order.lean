import JudgeDesk.Proofs.TestGroup.Validity

/-!
# Stable order

Sorting by rank is stable: names of equal rank, which are equal or carried by no group, stay in the
order in which they were. Order and stability together say all about what sorting gives.

* `StablySorted`, `stablySorted_sortByRank` — what stable sorting is, and that sorting by rank is
  one;
* `StablySorted.unique` — it leaves no choice;
* `Ordered`, `sorted_of_ordered` — groups with requirements in order are left alone by sorting;
* `Ordered.of_rank` — what keeps groups in order.
-/

namespace JudgeDesk.TestGroup

variable {groups groups' : List TestGroup} {l l' : List String}

/-! ### Ranks in a list -/

/-- **Stably sorted**: names in order of rank, those of each rank as they are in another list. -/
structure StablySorted (groups : List TestGroup) (l l' : List String) : Prop where
  /-- the names are in order of rank -/
  ordered : l'.Pairwise fun a b => rank groups a ≤ rank groups b
  /-- the names of each rank are the same ones, in the same order -/
  stable : ∀ k, l'.filter (rank groups · = k) = l.filter (rank groups · = k)

/-- The names of each rank are all names. -/
theorem mem_iff_of_filter_rank_eq
    (h : ∀ k, l.filter (rank groups · = k) = l'.filter (rank groups · = k)) (n : String) :
    n ∈ l ↔ n ∈ l' := by
  have hn : n ∈ l.filter (rank groups · = rank groups n) ↔
      n ∈ l'.filter (rank groups · = rank groups n) := by rw [h]
  simpa only [List.mem_filter, decide_true, and_true] using hn

/-- **Order and the names of each rank determine a list.** -/
theorem eq_of_filter_rank_eq (h : l.Pairwise fun a b => rank groups a ≤ rank groups b)
    (h' : l'.Pairwise fun a b => rank groups a ≤ rank groups b)
    (hrank : ∀ k, l.filter (rank groups · = k) = l'.filter (rank groups · = k)) : l = l' := by
  have hmem : ∀ n, n ∈ l ↔ n ∈ l' := mem_iff_of_filter_rank_eq hrank
  induction l generalizing l' with
  | nil =>
    refine (List.eq_nil_iff_forall_not_mem.mpr fun n hn => ?_).symm
    exact List.not_mem_nil ((hmem n).mpr hn)
  | cons a t ih =>
    cases l' with
    | nil => exact absurd ((hmem a).mp List.mem_cons_self) List.not_mem_nil
    | cons b t' =>
      obtain ⟨ha, ht⟩ := List.pairwise_cons.mp h
      obtain ⟨hb, ht'⟩ := List.pairwise_cons.mp h'
      -- both first names have the least rank, so that each is the first one of that rank
      have hle : rank groups a ≤ rank groups b := by
        rcases List.mem_cons.mp ((hmem b).mpr List.mem_cons_self) with rfl | hbt
        · exact le_rfl
        · exact ha b hbt
      have hge : rank groups b ≤ rank groups a := by
        rcases List.mem_cons.mp ((hmem a).mp List.mem_cons_self) with rfl | hat
        · exact le_rfl
        · exact hb a hat
      have hab : rank groups b = rank groups a := Nat.le_antisymm hge hle
      have hfirst := hrank (rank groups a)
      simp only [List.filter_cons, hab, decide_true, if_true, List.cons.injEq] at hfirst
      obtain ⟨rfl, -⟩ := hfirst
      have hrest (k : Nat) : t.filter (rank groups · = k) = t'.filter (rank groups · = k) := by
        have hk := hrank k
        simp only [List.filter_cons] at hk
        split at hk
        · exact List.cons_inj_right a |>.mp hk
        · exact hk
      rw [ih ht ht' hrest (mem_iff_of_filter_rank_eq hrest)]

/-- **Stable sorting leaves no choice.** -/
theorem StablySorted.unique {l₁ l₂ : List String} (h₁ : StablySorted groups l l₁)
    (h₂ : StablySorted groups l l₂) : l₁ = l₂ :=
  eq_of_filter_rank_eq h₁.ordered h₂.ordered fun k => (h₁.stable k).trans (h₂.stable k).symm

/-- Sorting by rank keeps the names of each rank in order. -/
theorem filter_rank_sortByRank (l : List String) (k : Nat) :
    (sortByRank groups l).filter (rank groups · = k) = l.filter (rank groups · = k) := by
  have : Std.Total fun a b : String => rank groups a ≤ rank groups b :=
    ⟨fun a b => Nat.le_total (rank groups a) (rank groups b)⟩
  have : IsTrans String fun a b => rank groups a ≤ rank groups b :=
    ⟨fun _ _ _ => Nat.le_trans⟩
  have hsame : (l.filter (rank groups · = k)).Pairwise fun a b =>
      rank groups a ≤ rank groups b := by
    refine List.pairwise_of_forall_mem_list fun a ha b hb => ?_
    have hak : rank groups a = k := of_decide_eq_true (List.mem_filter.mp ha).2
    have hbk : rank groups b = k := of_decide_eq_true (List.mem_filter.mp hb).2
    rw [hak, hbk]
  have hsub : (l.filter (rank groups · = k)).Sublist (sortByRank groups l) := by
    rw [sortByRank_eq_insertionSort]
    exact List.sublist_insertionSort hsame List.filter_sublist
  have hsub' := hsub.filter (rank groups · = k)
  simp only [List.filter_filter, Bool.and_self] at hsub'
  exact (hsub'.eq_of_length ((perm_sortByRank l).filter _).length_eq.symm).symm

/-- **Sorting by rank is stable sorting.** -/
theorem stablySorted_sortByRank (l : List String) : StablySorted groups l (sortByRank groups l) :=
  ⟨pairwise_sortByRank l, filter_rank_sortByRank l⟩

/-- Names in order of rank are left alone by sorting. -/
theorem sortByRank_of_pairwise (h : l.Pairwise fun a b => rank groups a ≤ rank groups b) :
    sortByRank groups l = l := by
  rw [sortByRank_eq_insertionSort]
  exact h.insertionSort_eq

/-- **What the sorting gives is settled by the names of each rank.** -/
theorem sortByRank_congr (h : ∀ k, l.filter (rank groups · = k) = l'.filter (rank groups · = k)) :
    sortByRank groups l = sortByRank groups l' := by
  refine eq_of_filter_rank_eq (pairwise_sortByRank l) (pairwise_sortByRank l') fun k => ?_
  rw [filter_rank_sortByRank, filter_rank_sortByRank, h]

/-- Names may be sorted before others are put behind them. -/
theorem sortByRank_append (l l' : List String) :
    sortByRank groups (sortByRank groups l ++ l') = sortByRank groups (l ++ l') := by
  refine sortByRank_congr fun k => ?_
  rw [List.filter_append, List.filter_append, filter_rank_sortByRank]

/-- Sorting by rank depends on the ranks only. -/
theorem sortByRank_eq_of_rank (h : ∀ n, rank groups n = rank groups' n) (l : List String) :
    sortByRank groups l = sortByRank groups' l := by
  simp only [sortByRank_eq_insertionSort, h]

/-! ### Groups in order -/

/-- **Ordered groups**: the requirements of each are in order of rank. -/
def Ordered (groups : List TestGroup) : Prop :=
  ∀ g ∈ groups, g.required.Pairwise fun a b => rank groups a ≤ rank groups b

theorem Valid.ordered (h : Valid groups) : Ordered groups := by
  intro g hg
  obtain ⟨i, hi⟩ := List.mem_iff_getElem?.mp hg
  exact (h i g hi).increasing.imp fun hab => hab.le

/-- **Sorting leaves ordered groups alone.** -/
theorem sorted_of_ordered (h : Ordered groups) : sorted groups = groups := by
  have hsame (g : TestGroup) (hg : g ∈ groups) :
      { g with required := sortByRank groups g.required } = g := by
    rw [sortByRank_of_pairwise (h g hg)]
  rw [sorted, List.map_congr_left hsame, List.map_id']

/-- **Order is kept** if every group has some of the requirements of a group that was there, and the
names among them rank as they did. -/
theorem Ordered.of_rank (h : Ordered groups)
    (hto : ∀ g' ∈ groups', ∃ g ∈ groups, g'.required.Sublist g.required ∧
      ∀ a ∈ g'.required, ∀ b ∈ g'.required,
        rank groups a ≤ rank groups b → rank groups' a ≤ rank groups' b) : Ordered groups' := by
  intro g' hg'
  obtain ⟨g, hg, hsub, hrank⟩ := hto g' hg'
  exact ((h g hg).sublist hsub).imp_of_mem fun {a b} ha hb hab => hrank a ha b hb hab

end JudgeDesk.TestGroup
