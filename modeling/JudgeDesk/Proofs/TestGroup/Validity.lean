import JudgeDesk.Proofs.TestGroup.Rank

/-!
# Valid requirements

The requirements of a group are *valid* if each is the name of an earlier group with complete
scoring, none is there twice, and they stand in strictly increasing order of rank. Every action
keeps all requirements valid, and swapping in whatever groups makes them so.

* `ValidAt`, `Valid` — valid requirements, of one group and of all;
* `Coherent` — the part of validity that does not speak of order;
* `Coherent.perform` — what an action does keeps the groups coherent;
* `Coherent.valid_sorted` — sorting makes coherent groups valid;
* `Valid.apply`, `valid_normalize` — an action keeps validity, and normal requirements are valid.

Validity is proved through coherence: an action may leave requirements out of order until the
sorting at its end, and the purge is what keeps them coherent when a face changes.
-/

namespace JudgeDesk.TestGroup

variable {groups groups' : List TestGroup} {i : Nat}

/-! ### Validity and coherence -/

/-- **Valid requirements** of the group at a position. -/
structure ValidAt (groups : List TestGroup) (i : Nat) (names : List String) : Prop where
  /-- no requirement is empty -/
  named : ∀ n ∈ names, n ≠ ""
  /-- an earlier group with complete scoring has the name -/
  earlier : ∀ n ∈ names, ∃ j < i, ∃ g,
    groups[j]? = some g ∧ g.name = n ∧ g.scoringType = .complete
  /-- no requirement is there twice -/
  nodup : names.Nodup
  /-- the first groups of the names stand in this order -/
  increasing : names.Pairwise fun a b => rank groups a < rank groups b

/-- **Valid groups**: the requirements of each are valid. -/
def Valid (groups : List TestGroup) : Prop :=
  ∀ i g, groups[i]? = some g → ValidAt groups i g.required

/-- **Coherent requirements** of the group at a position, in any order. -/
structure CoherentAt (groups : List TestGroup) (i : Nat) (names : List String) : Prop where
  /-- each may be required there -/
  mayRequire : ∀ n ∈ names, mayRequire groups i n = true
  /-- no requirement is there twice -/
  nodup : names.Nodup

/-- **Coherent groups**: the requirements of each are coherent. -/
def Coherent (groups : List TestGroup) : Prop :=
  ∀ i g, groups[i]? = some g → CoherentAt groups i g.required

/-- Requirements that are coherent and in strict order are valid. -/
theorem CoherentAt.validAt {names : List String} (h : CoherentAt groups i names)
    (hrank : names.Pairwise fun a b => rank groups a < rank groups b) :
    ValidAt groups i names :=
  ⟨fun n hn => (mayRequire_iff_exists.mp (h.mayRequire n hn)).1,
    fun n hn => (mayRequire_iff_exists.mp (h.mayRequire n hn)).2, h.nodup, hrank⟩

theorem ValidAt.coherentAt {names : List String} (h : ValidAt groups i names) :
    CoherentAt groups i names :=
  ⟨fun n hn => mayRequire_iff_exists.mpr ⟨h.named n hn, h.earlier n hn⟩, h.nodup⟩

theorem Valid.coherent (h : Valid groups) : Coherent groups :=
  fun i g hg => (h i g hg).coherentAt

/-- Coherence is read off the faces, up to the order of the names. -/
theorem CoherentAt.of_perm {names names' : List String} (h : CoherentAt groups i names)
    (hperm : names'.Perm names) (hface : groups.map face = groups'.map face) :
    CoherentAt groups' i names' := by
  refine ⟨fun n hn => ?_, hperm.nodup_iff.mpr h.nodup⟩
  rw [← mayRequire_eq_of_faces hface]
  exact h.mayRequire n (hperm.mem_iff.mp hn)

/-- **Sorted coherent requirements are in strict order**, as coherent names are carried, so that
different ones have different ranks. -/
theorem CoherentAt.increasing_sortByRank {names : List String} (h : CoherentAt groups i names) :
    (sortByRank groups names).Pairwise fun a b => rank groups a < rank groups b := by
  have hnodup : (sortByRank groups names).Nodup := (perm_sortByRank names).nodup_iff.mpr h.nodup
  refine ((pairwise_sortByRank names).and hnodup).imp_of_mem fun {a b} ha _ hab => ?_
  refine lt_of_le_of_ne hab.1 fun heq => hab.2 ?_
  have hmay := h.mayRequire a ((perm_sortByRank names).mem_iff.mp ha)
  exact eq_of_rank_eq (exists_mem_of_mayRequire hmay) heq

/-- **Sorting makes coherent groups valid.** -/
theorem Coherent.valid_sorted (h : Coherent groups) : Valid (sorted groups) := by
  intro i g' hg'
  rw [sorted, List.getElem?_map, Option.map_eq_some_iff] at hg'
  obtain ⟨g, hg, rfl⟩ := hg'
  have hc : CoherentAt (sorted groups) i (sortByRank groups g.required) :=
    (h i g hg).of_perm (perm_sortByRank g.required) map_face_sorted.symm
  refine hc.validAt ((h i g hg).increasing_sortByRank.imp fun {a b} hab => ?_)
  rwa [rank_eq_of_faces map_face_sorted, rank_eq_of_faces map_face_sorted]

/-! ### Changes to one group -/

/-- What may be required stays so, as long as the faces that allow it are kept. -/
theorem mayRequire_mono {n : String}
    (h : ∀ j < i, (groups.map face)[j]? = some (n, .complete) →
      (groups'.map face)[j]? = some (n, .complete))
    (hmay : mayRequire groups i n = true) : mayRequire groups' i n = true := by
  obtain ⟨hne, j, hlt, hj⟩ := mayRequire_iff.mp hmay
  exact mayRequire_iff.mpr ⟨hne, j, hlt, h j hlt hj⟩

/-- A change to one group that keeps its name and does not end its complete scoring keeps the groups
coherent, if its requirements are coherent afterwards. -/
theorem Coherent.modify (h : Coherent groups) {f : TestGroup → TestGroup}
    (hname : ∀ g, (f g).name = g.name)
    (hscoring : ∀ g, g.scoringType = .complete → (f g).scoringType = .complete)
    (hreq : ∀ g, groups[i]? = some g → CoherentAt groups i (f g).required) :
    Coherent (groups.modify i f) := by
  have hmay {k : Nat} {n : String} :
      mayRequire groups k n = true → mayRequire (groups.modify i f) k n = true := by
    refine mayRequire_mono fun j _ hj => ?_
    rw [List.getElem?_map, Option.map_eq_some_iff] at hj
    obtain ⟨g, hg, hface⟩ := hj
    obtain ⟨rfl, hcomplete⟩ := Prod.mk.inj hface
    rw [List.getElem?_map, List.getElem?_modify, hg]
    split
    · exact congrArg some (Prod.ext (hname g) (hscoring g hcomplete))
    · exact congrArg some (Prod.ext rfl hcomplete)
  intro k g' hg'
  rw [List.getElem?_modify] at hg'
  obtain ⟨g, hg, rfl⟩ := Option.map_eq_some_iff.mp hg'
  split
  · next heq =>
    subst heq
    exact ⟨fun n hn => hmay ((hreq g hg).mayRequire n hn), (hreq g hg).nodup⟩
  · exact ⟨fun n hn => hmay ((h k g hg).mayRequire n hn), (h k g hg).nodup⟩

/-- What may be required stays so without the face of the group at `owner`, if that group does not
carry the name or is not earlier. -/
theorem mayRequire_of_faces_ne {owner k : Nat} {g : TestGroup} {n : String}
    (hg : groups[owner]? = some g)
    (hface : ∀ j, j ≠ owner → (groups'.map face)[j]? = (groups.map face)[j]?)
    (hn : n ≠ g.name ∨ k ≤ owner) (hmay : mayRequire groups k n = true) :
    mayRequire groups' k n = true := by
  refine mayRequire_mono (fun j hlt hj => ?_) hmay
  have hne : j ≠ owner := by
    rintro rfl
    rw [List.getElem?_map, hg, Option.map_some, Option.some.injEq] at hj
    rcases hn with hn | hle
    · exact hn (congrArg Prod.fst hj).symm
    · omega
  rw [hface j hne]
  exact hj

theorem getElem?_purge (owner : Nat) (name : String) (k : Nat) :
    (purge owner name groups)[k]? =
      groups[k]?.map fun g => if k = owner then g else dropRequirement name g := by
  rw [purge, List.getElem?_mapIdx]

/-- Requirements that are coherent stay so when a name is dropped. -/
theorem CoherentAt.filter {names : List String} (h : CoherentAt groups i names)
    (p : String → Bool) : CoherentAt groups i (names.filter p) :=
  ⟨fun n hn => h.mayRequire n (List.mem_of_mem_filter hn), h.nodup.filter p⟩

/-- **A purge allows any change to the face of its owner.** Nobody else requires the name that the
owner had, and what the owner requires is carried by groups before it. -/
theorem Coherent.modify_purge (h : Coherent groups) {owner : Nat} {g : TestGroup}
    (hg : groups[owner]? = some g) {f : TestGroup → TestGroup}
    (hreq : ∀ g, (f g).required = g.required) :
    Coherent ((purge owner g.name groups).modify owner f) := by
  have hface (j : Nat) (hj : j ≠ owner) :
      (((purge owner g.name groups).modify owner f).map face)[j]? = (groups.map face)[j]? := by
    rw [List.getElem?_map, List.getElem?_modify_ne _ _ hj.symm, ← List.getElem?_map, map_face_purge]
  intro k g' hg'
  rw [List.getElem?_modify, getElem?_purge, Option.map_eq_map, Option.map_map] at hg'
  obtain ⟨g₀, hg₀, rfl⟩ := Option.map_eq_some_iff.mp hg'
  have hc := h k g₀ hg₀
  by_cases hk : k = owner
  · -- the owner: its requirements are the same, and carried by groups before it
    subst hk
    simp only [Function.comp_apply, if_true, hreq]
    exact ⟨fun n hn => mayRequire_of_faces_ne hg hface (.inr le_rfl) (hc.mayRequire n hn), hc.nodup⟩
  · -- another group: its requirements are other names than that of the owner
    simp only [Function.comp_apply, if_neg hk, if_neg (Ne.symm hk), dropRequirement]
    refine ⟨fun n hn => ?_, (hc.filter _).nodup⟩
    have hne : n ≠ g.name := of_decide_eq_true (List.mem_filter.mp hn).2
    exact mayRequire_of_faces_ne hg hface (.inl hne) ((hc.filter _).mayRequire n hn)

/-- **Removing** a group after the purge of its name: what the others require is carried by groups
that stay, and they stay in order. -/
theorem Coherent.eraseIdx_purge (h : Coherent groups) {owner : Nat} {g : TestGroup}
    (hg : groups[owner]? = some g) : Coherent ((purge owner g.name groups).eraseIdx owner) := by
  intro k g' hg'
  -- `k'` is where the group at `k` stood before
  obtain ⟨k', hk', hne, hg'⟩ : ∃ k', k' = (if k < owner then k else k + 1) ∧ k' ≠ owner ∧
      (purge owner g.name groups)[k']? = some g' := by
    rw [List.getElem?_eraseIdx] at hg'
    split at hg'
    · next hlt => exact ⟨k, (if_pos hlt).symm, by omega, hg'⟩
    · next hge => exact ⟨k + 1, (if_neg hge).symm, by omega, hg'⟩
  rw [getElem?_purge] at hg'
  obtain ⟨g₀, hg₀, rfl⟩ := Option.map_eq_some_iff.mp hg'
  have hc := (h k' g₀ hg₀).filter (· ≠ g.name)
  rw [if_neg hne, dropRequirement]
  refine ⟨fun n hn => ?_, hc.nodup⟩
  have hn' : n ≠ g.name := of_decide_eq_true (List.mem_filter.mp hn).2
  obtain ⟨hempty, j, hlt, hj⟩ := mayRequire_iff.mp (hc.mayRequire n hn)
  have hjne : j ≠ owner := by
    rintro rfl
    rw [List.getElem?_map, hg, Option.map_some, Option.some.injEq] at hj
    exact hn' (congrArg Prod.fst hj).symm
  refine mayRequire_iff.mpr ⟨hempty, if j < owner then j else j - 1, ?_, ?_⟩
  · split at hk' <;> split <;> omega
  · rw [List.getElem?_map, List.getElem?_eraseIdx, ← hj, ← map_face_purge owner g.name,
      List.getElem?_map]
    by_cases hj' : j < owner
    · rw [if_pos hj', if_pos hj']
    · rw [if_neg hj', if_neg (by omega), Nat.sub_add_cancel (by omega)]

/-- A group without requirements may be put behind all others. -/
theorem Coherent.append (h : Coherent groups) {g : TestGroup} (hreq : g.required = []) :
    Coherent (groups ++ [g]) := by
  have hmay {k : Nat} {n : String} (hk : mayRequire groups k n = true) :
      mayRequire (groups ++ [g]) k n = true := by
    refine mayRequire_mono (fun j _ hj => ?_) hk
    rw [List.map_append, List.getElem?_append_left (List.getElem?_eq_some_iff.mp hj).1, hj]
  intro k g' hg'
  rcases Nat.lt_or_ge k groups.length with hlt | hge
  · rw [List.getElem?_append_left hlt] at hg'
    exact ⟨fun n hn => hmay ((h k g' hg').mayRequire n hn), (h k g' hg').nodup⟩
  · rw [List.getElem?_append_right hge] at hg'
    obtain rfl : g' = g := List.mem_singleton.mp (List.mem_of_getElem? hg')
    rw [hreq]
    exact ⟨fun _ hn => absurd hn List.not_mem_nil, List.nodup_nil⟩

/-! ### Actions -/

theorem nodup_append_singleton {names : List String} {n : String} (h : names.Nodup)
    (hn : n ∉ names) : (names ++ [n]).Nodup := by
  rw [← List.concat_eq_append]
  exact h.concat hn

/-- Requirements that are coherent stay so when a name is put behind them that may be required and
is not required yet. -/
theorem CoherentAt.concat {names : List String} {n : String} (h : CoherentAt groups i names)
    (hmay : TestGroup.mayRequire groups i n = true) (hnew : n ∉ names) :
    CoherentAt groups i (names ++ [n]) := by
  refine ⟨fun m hm => ?_, nodup_append_singleton h.nodup hnew⟩
  rcases List.mem_append.mp hm with hm | hm
  · exact h.mayRequire m hm
  · rwa [List.mem_singleton.mp hm]

/-- A candidate is a name that may be required there and is not required yet. -/
theorem mem_candidates_iff {n : String} :
    n ∈ candidates groups i ↔
      ∃ g, groups[i]? = some g ∧ mayRequire groups i n = true ∧ n ∉ g.required := by
  unfold candidates
  rcases groups[i]? with _ | g
  · simp
  · simp only [List.mem_map, List.mem_filter, mayRequire, List.any_eq_true, requires,
      Bool.and_eq_true, decide_eq_true_eq, Bool.not_eq_true', decide_eq_false_iff_not,
      Option.some.injEq, exists_eq_left']
    constructor
    · rintro ⟨c, ⟨hc, helig, hnew⟩, rfl⟩
      exact ⟨⟨c, hc, helig, rfl⟩, hnew⟩
    · rintro ⟨⟨c, hc, helig, rfl⟩, hnew⟩
      exact ⟨c, ⟨hc, helig, hnew⟩, rfl⟩

/-- A new requirement is allowed if it is a candidate. -/
theorem guard_addRequired_eq_ok_iff {n : String} :
    guard groups i (.addRequired n) = .ok () ↔ n ∈ candidates groups i := by
  rw [guard]
  split_ifs with hn
  · exact iff_of_true rfl hn
  · exact iff_of_false nofun hn

theorem Coherent.rename (h : Coherent groups) (name : String) :
    Coherent (rename groups i name) := by
  unfold TestGroup.rename
  split
  · exact h
  · next g hg =>
    split
    · exact h
    · exact h.modify_purge hg fun _ => rfl

theorem Coherent.rescore (h : Coherent groups) (kind : ScoringType) :
    Coherent (rescore groups i kind) := by
  unfold TestGroup.rescore
  split
  · exact h
  · next g hg =>
    have hreq (g : TestGroup) :
        (if g.scoringType = kind then g else g.withoutScores).required = g.required := by
      split <;> rfl
    have hname (g : TestGroup) :
        (if g.scoringType = kind then g else g.withoutScores).name = g.name := by
      split <;> rfl
    by_cases hkind : kind = .complete
    · simp only [if_pos hkind]
      refine h.modify hname (fun _ _ => hkind) fun g₀ hg₀ => ?_
      rw [hreq]
      exact h i g₀ hg₀
    · simp only [if_neg hkind]
      exact h.modify_purge hg hreq

theorem Coherent.remove (h : Coherent groups) : Coherent (remove groups i) := by
  unfold TestGroup.remove
  split
  · exact h
  · next g hg => exact h.eraseIdx_purge hg

/-- **What an action does keeps the groups coherent**, if it is allowed at all. -/
theorem Coherent.perform (h : Coherent groups) {action : GroupAction}
    (hguard : guard groups i action = .ok ()) : Coherent (perform groups i action) := by
  cases action with
  | addGroup => exact h.append rfl
  | setName name => exact h.rename name
  | setFirstTest raw =>
    simp only [TestGroup.perform]
    split
    · exact h.modify (fun _ => rfl) (fun _ hg => hg) (h i)
    · exact h
  | setLastTest raw =>
    simp only [TestGroup.perform]
    split
    · exact h.modify (fun _ => rfl) (fun _ hg => hg) (h i)
    · exact h
  | setScoringType raw =>
    simp only [TestGroup.perform]
    split
    · next kind _ => exact h.rescore kind
    · exact h
  | setFeedbackType raw =>
    simp only [TestGroup.perform]
    split
    · exact h.modify (fun _ => rfl) (fun _ hg => hg) (h i)
    · exact h
  | setScore raw => exact h.modify (fun _ => rfl) (fun _ hg => hg) (h i)
  | setTestScore raw => exact h.modify (fun _ => rfl) (fun _ hg => hg) (h i)
  | addRequired name =>
    have hmem : name ∈ candidates groups i := guard_addRequired_eq_ok_iff.mp hguard
    refine h.modify (fun _ => rfl) (fun _ hg => hg) fun g hg => ?_
    obtain ⟨g₀, hg₀, hmay, hnew⟩ := mem_candidates_iff.mp hmem
    obtain rfl : g₀ = g := Option.some.inj (hg₀.symm.trans hg)
    exact (h i g₀ hg).concat hmay hnew
  | removeRequired name =>
    refine h.modify (fun _ => rfl) (fun _ hg => hg) fun g hg => ?_
    exact ⟨fun n hn => (h i g hg).mayRequire n (List.mem_of_mem_erase hn),
      (h i g hg).nodup.erase name⟩
  | removeGroup => exact h.remove

/-- What comes of an action that is applied: it has a target, it is allowed there, and its effect is
sorted. -/
theorem apply_eq_ok {index : Option Nat} {action : GroupAction}
    (h : apply groups index action = .ok groups') :
    ∃ i, target groups index action = .ok i ∧ guard groups i action = .ok () ∧
      groups' = sorted (perform groups i action) := by
  unfold apply at h
  rcases ht : target groups index action with e | i
  · rw [ht] at h
    cases h
  · rw [ht] at h
    rcases hg : guard groups i action with e | u
    · simp only [bind, Except.bind, hg] at h
      cases h
    · simp only [bind, Except.bind, hg] at h
      exact ⟨i, rfl, hg, (Except.ok.inj h).symm⟩

/-- An action other than to add a group acts at the position that it is given. -/
theorem target_some {action : GroupAction} (haction : action ≠ .addGroup) (i : Nat) :
    target groups (some i) action =
      if i < groups.length then .ok i else .error (.invalidIndex i groups.length) := by
  cases action with
  | addGroup => exact absurd rfl haction
  | _ => rfl

/-- **When an action on a group is accepted**, and what comes of it. -/
theorem apply_some_eq_ok_iff {action : GroupAction} (haction : action ≠ .addGroup) :
    apply groups (some i) action = .ok groups' ↔
      i < groups.length ∧ guard groups i action = .ok () ∧
        groups' = sorted (perform groups i action) := by
  constructor
  · intro h
    obtain ⟨j, htarget, hguard, rfl⟩ := apply_eq_ok h
    rw [target_some haction] at htarget
    split_ifs at htarget with hlt
    obtain rfl := Except.ok.inj htarget
    exact ⟨hlt, hguard, rfl⟩
  · rintro ⟨hlt, hguard, rfl⟩
    simp only [apply, target_some haction, if_pos hlt, hguard, bind, Except.bind, pure,
      Except.pure]

/-- **Every action keeps the groups valid.** -/
theorem Valid.apply (h : Valid groups) {index : Option Nat} {action : GroupAction}
    (happly : apply groups index action = .ok groups') : Valid groups' := by
  obtain ⟨i, -, hguard, rfl⟩ := apply_eq_ok happly
  exact (h.coherent.perform hguard).valid_sorted

/-! ### Normal requirements -/

theorem mem_firstMentions {passes : String → Bool} {n : String} (l : List String) :
    ∀ kept, n ∈ firstMentions passes kept l ↔ n ∈ kept ∨ (n ∈ l ∧ passes n = true) := by
  induction l with
  | nil => intro kept; simp [firstMentions]
  | cons m rest ih =>
    intro kept
    unfold firstMentions
    split
    · next hm =>
      rw [Bool.and_eq_true] at hm
      rw [ih, List.mem_append, List.mem_singleton, List.mem_cons]
      grind
    · next hm =>
      rw [ih, List.mem_cons]
      grind

theorem nodup_firstMentions (passes : String → Bool) (l : List String) :
    ∀ kept : List String, kept.Nodup → (firstMentions passes kept l).Nodup := by
  induction l with
  | nil => exact fun _ h => h
  | cons m rest ih =>
    intro kept hkept
    unfold firstMentions
    split
    · next hm =>
      rw [Bool.and_eq_true, decide_eq_true_eq] at hm
      exact ih _ (nodup_append_singleton hkept hm.2)
    · exact ih _ hkept

/-- **Normal requirements are valid**, whatever they were before. -/
theorem valid_normalize (groups : List TestGroup) : Valid (normalize groups) := by
  refine Coherent.valid_sorted fun i g' hg' => ?_
  rw [List.getElem?_mapIdx] at hg'
  obtain ⟨g, hg, rfl⟩ := Option.map_eq_some_iff.mp hg'
  refine ⟨fun n hn => ?_, nodup_firstMentions _ _ _ List.nodup_nil⟩
  refine (mayRequire_eq_of_faces (map_mapIdx_eq_map face ?_) i n).trans ?_
  · exact fun _ _ => rfl
  rcases (mem_firstMentions g.required []).mp hn with hn | hn
  · exact absurd hn List.not_mem_nil
  · exact hn.2

end JudgeDesk.TestGroup
