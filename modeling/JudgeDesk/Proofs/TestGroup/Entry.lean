import JudgeDesk.Proofs.TestGroup.Order
import JudgeDesk.Proofs.TestGroup.Replay

/-!
# Requirements entered in any order

Several names that a group may still require are entered one after the other. None of them is
refused on account of another one, and it does not matter which comes first: in the end they stand
among the requirements that were there, sorted by rank. As they are carried by different groups they
have different ranks, and what was there keeps its order where ranks are equal, be it valid or not.

* `requireAll` — entering names one after the other;
* `entered`, `requireAll_eq` — what comes of it;
* `entered_perm` — the order of entry leaves no trace;
* `requireAll_perm` — all orders are accepted and come to the same;
* `not_requireAll_sorted` — if nothing is entered, nothing is sorted.
-/

namespace JudgeDesk.TestGroup

variable {groups groups' : List TestGroup} {i : Nat} {n : String} {names names' : List String}

/-- **Names entered** at a position **one after the other**, until one is refused. -/
def requireAll (groups : List TestGroup) (i : Nat) (names : List String) :
    Except Error (List TestGroup) :=
  names.foldlM (fun groups n => apply groups (some i) (.addRequired n)) groups

/-- Names put behind the requirements of a group, and all requirements sorted. -/
def entered (groups : List TestGroup) (i : Nat) (names : List String) : List TestGroup :=
  sorted (groups.modify i fun g => { g with required := g.required ++ names })

/-- A group after names were entered. The names are behind its requirements if it is the one, and
all requirements are sorted. -/
theorem getElem?_entered (groups : List TestGroup) (i : Nat) (names : List String) (k : Nat) :
    (entered groups i names)[k]? = groups[k]?.map fun g =>
      { g with
        required := sortByRank groups (if k = i then g.required ++ names else g.required) } := by
  have hface : (groups.modify i fun g => { g with required := g.required ++ names }).map face =
      groups.map face := by
    refine map_modify_eq_map face ?_ i
    exact fun _ => rfl
  simp only [entered, sorted, List.getElem?_map, List.getElem?_modify, Option.map_eq_map,
    Option.map_map, sortByRank_eq_of_rank (rank_eq_of_faces hface)]
  refine Option.map_congr fun g _ => ?_
  by_cases hk : i = k
  · simp [hk]
  · simp [hk, Ne.symm hk]

theorem map_bare_entered (groups : List TestGroup) (i : Nat) (names : List String) :
    (entered groups i names).map bare = groups.map bare := by
  refine map_bare_sorted_modify groups i ?_
  exact fun _ => rfl

/-- **Entering more names** later is entering them all. -/
theorem entered_entered (groups : List TestGroup) (i : Nat) (names names' : List String) :
    entered (entered groups i names) i names' = entered groups i (names ++ names') := by
  have hsort := sortByRank_eq_of_rank
    (rank_eq_of_faces (map_face_eq_of_bare (map_bare_entered groups i names)))
  refine List.ext_getElem? fun k => ?_
  rw [getElem?_entered, getElem?_entered, getElem?_entered, Option.map_map]
  refine Option.map_congr fun g _ => ?_
  simp only [Function.comp_apply, hsort]
  by_cases hk : k = i
  · simp only [if_pos hk, sortByRank_append, List.append_assoc]
  · simp only [if_neg hk]
    rw [sortByRank_of_pairwise (pairwise_sortByRank g.required)]

/-- **The order of entry leaves no trace**, as different names that are carried have different
ranks. -/
theorem entered_perm (hcarried : ∀ n ∈ names, ∃ g ∈ groups, g.name = n)
    (hperm : names'.Perm names) : entered groups i names' = entered groups i names := by
  have hclass (k : Nat) : names'.filter (rank groups · = k) = names.filter (rank groups · = k) := by
    -- names of equal rank are equal, so that there is nothing to be ordered
    have hany (l : List String) : l.Pairwise fun _ _ => True :=
      List.pairwise_of_forall fun _ _ => trivial
    refine (hperm.filter _).eq_of_pairwise (fun a b ha hb _ _ => ?_) (hany _) (hany _)
    obtain ⟨hmem, hak⟩ := List.mem_filter.mp ha
    obtain ⟨-, hbk⟩ := List.mem_filter.mp hb
    refine eq_of_rank_eq (hcarried a (hperm.mem_iff.mp hmem)) ?_
    rw [of_decide_eq_true hak, of_decide_eq_true hbk]
  refine List.ext_getElem? fun k => ?_
  rw [getElem?_entered, getElem?_entered]
  refine Option.map_congr fun g _ => ?_
  by_cases hk : k = i
  · rw [if_pos hk, if_pos hk, sortByRank_congr fun k => ?_]
    rw [List.filter_append, List.filter_append, hclass]
  · rw [if_neg hk, if_neg hk]

/-- **A step.** A name that may still be required is accepted after others were entered. -/
theorem apply_entered (h : n ∈ candidates (entered groups i names) i) :
    apply (entered groups i names) (some i) (.addRequired n) =
      .ok (entered groups i (names ++ [n])) := by
  rw [apply_addRequired h, ← entered_entered]
  rfl

/-- What may still be required after names were entered: what might be before, without the names. -/
theorem mem_candidates_entered :
    n ∈ candidates (entered groups i names) i ↔ n ∈ candidates groups i ∧ n ∉ names := by
  have hmay := mayRequire_eq_of_faces (map_face_eq_of_bare (map_bare_entered groups i names)) i n
  rw [mem_candidates_iff, mem_candidates_iff, getElem?_entered]
  rcases groups[i]? with _ | g
  · simp
  · simp only [Option.map_some, Option.some.injEq, exists_eq_left', if_true, hmay,
      (perm_sortByRank _).mem_iff, List.mem_append, not_or, and_assoc]

/-- **A run.** Different names that may be required are all accepted after others were entered. -/
theorem requireAll_entered {done rest : List String} (hnodup : (done ++ rest).Nodup)
    (hrest : ∀ n ∈ rest, n ∈ candidates groups i) :
    requireAll (entered groups i done) i rest = .ok (entered groups i (done ++ rest)) := by
  induction rest generalizing done with
  | nil =>
    rw [List.append_nil]
    rfl
  | cons n rest ih =>
    have hnew : n ∉ done := fun hdone =>
      (List.nodup_append.mp hnodup).2.2 n hdone n List.mem_cons_self rfl
    have hcand : n ∈ candidates (entered groups i done) i :=
      mem_candidates_entered.mpr ⟨hrest n List.mem_cons_self, hnew⟩
    have hcons : done ++ n :: rest = done ++ [n] ++ rest := List.append_cons done n rest
    rw [hcons] at hnodup ⊢
    rw [requireAll, List.foldlM_cons, apply_entered hcand]
    exact ih hnodup fun m hm => hrest m (List.mem_cons_of_mem n hm)

/-- **Entering some names**, at least one: the first of them sorts what was there. -/
theorem requireAll_eq (hsome : names ≠ []) (hnodup : names.Nodup)
    (hnames : ∀ n ∈ names, n ∈ candidates groups i) :
    requireAll groups i names = .ok (entered groups i names) := by
  cases names with
  | nil => exact absurd rfl hsome
  | cons n rest =>
    have hfirst : apply groups (some i) (.addRequired n) = .ok (entered groups i [n]) :=
      apply_addRequired (hnames n List.mem_cons_self)
    have hrest : requireAll (entered groups i [n]) i rest = .ok (entered groups i (n :: rest)) :=
      requireAll_entered hnodup fun m hm => hnames m (List.mem_cons_of_mem n hm)
    rw [requireAll, List.foldlM_cons, hfirst]
    exact hrest

/-- **Requirements may be entered in any order.** Different names that a group may still require are
accepted in whatever order they come, and all orders come to the same groups. In these the group
requires the names as well as what it required before, stably sorted by rank. If there is no name to
be entered then nothing is sorted either. -/
theorem requireAll_perm (hnodup : names.Nodup) (hnames : ∀ n ∈ names, n ∈ candidates groups i) :
    ∃ groups', (∀ order : List String, order.Perm names →
        requireAll groups i order = .ok groups') ∧
      (names = [] → groups' = groups) ∧
      (names ≠ [] →
        StablySorted groups (requiredAt groups i ++ names) (requiredAt groups' i)) := by
  rcases hnames₀ : names with _ | ⟨n, rest⟩
  · refine ⟨groups, fun order horder => ?_, fun _ => rfl, fun h => absurd rfl h⟩
    rw [horder.eq_nil]
    rfl
  · rw [← hnames₀]
    have hsome : names ≠ [] := hnames₀ ▸ List.cons_ne_nil n rest
    refine ⟨entered groups i names, fun order horder => ?_, fun h => absurd h hsome, fun _ => ?_⟩
    · have horder' : ∀ n ∈ order, n ∈ candidates groups i := fun n hn =>
        hnames n (horder.mem_iff.mp hn)
      have hcarried : ∀ n ∈ names, ∃ g ∈ groups, g.name = n := fun n hn => by
        obtain ⟨-, -, hmay, -⟩ := mem_candidates_iff.mp (hnames n hn)
        exact exists_mem_of_mayRequire hmay
      rw [requireAll_eq (fun h => hsome (h ▸ horder).nil_eq.symm) (horder.nodup_iff.mpr hnodup)
        horder', entered_perm hcarried horder]
    · obtain ⟨g, hg, -, -⟩ := mem_candidates_iff.mp (hnames n (hnames₀ ▸ List.mem_cons_self))
      rw [requiredAt_of_getElem? hg, requiredAt, getElem?_entered, hg, Option.map_some,
        Option.map_some, Option.getD_some, if_pos rfl]
      exact stablySorted_sortByRank _

/-- Groups that share a name, and a group that requires names that nobody carries. -/
def muddled : List TestGroup :=
  [{ name := "A" }, { name := "B" }, { name := "A" }, { name := "C" },
    { name := "D", required := ["ghost", "B", "phantom"] }]

/-- Two names entered both ways round: those that nobody carries stay behind, as they were. -/
theorem requireAll_perm_muddled :
    ["C", "A"].Nodup ∧ (∀ n ∈ ["C", "A"], n ∈ candidates muddled 4) ∧
      ∃ groups', requireAll muddled 4 ["C", "A"] = .ok groups' ∧
        requireAll muddled 4 ["A", "C"] = .ok groups' ∧
        requiredAt groups' 4 = ["A", "B", "C", "ghost", "phantom"] := by
  have hnodup : ["C", "A"].Nodup := by decide
  have hnames : ∀ n ∈ ["C", "A"], n ∈ candidates muddled 4 := by decide
  obtain ⟨groups', hall, -, hsorted⟩ := requireAll_perm hnodup hnames
  have hsort : sortByRank muddled (requiredAt muddled 4 ++ ["C", "A"]) =
      ["A", "B", "C", "ghost", "phantom"] := by decide
  refine ⟨hnodup, hnames, groups', hall _ (List.Perm.refl _), hall _ (List.Perm.swap _ _ _), ?_⟩
  rw [← hsort]
  exact (hsorted (List.cons_ne_nil _ _)).unique (stablySorted_sortByRank _)

/-- A group requires two names in the wrong order. -/
def unsorted : List TestGroup :=
  [{ name := "A" }, { name := "B" }, { name := "C", required := ["B", "A"] }]

/-- If nothing is entered, nothing is sorted. -/
theorem not_requireAll_sorted :
    ¬ ∀ (groups : List TestGroup) (i : Nat) (names : List String), i < groups.length →
      names.Nodup → (∀ n ∈ names, n ∈ candidates groups i) →
      ∃ groups', (∀ order : List String, order.Perm names →
          requireAll groups i order = .ok groups') ∧
        StablySorted groups (requiredAt groups i ++ names) (requiredAt groups' i) := by
  intro hall
  obtain ⟨groups', hsame, hsorted⟩ := hall unsorted 2 [] (by decide) List.nodup_nil nofun
  obtain rfl : unsorted = groups' := Except.ok.inj (hsame [] (List.Perm.refl _))
  have hordered : ["B", "A"].Pairwise fun a b => rank unsorted a ≤ rank unsorted b :=
    hsorted.ordered
  revert hordered
  decide

end JudgeDesk.TestGroup
