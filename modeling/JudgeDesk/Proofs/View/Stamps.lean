import JudgeDesk.Proofs.View.Due

/-!
# The stamps of orders

An order carries the submission and the generation of the view that gave it. A view that was loaded
less often than a generation can count knows its own orders by these stamps.

* `View.Stamped` — the generation counts loads, and the orders of the current generation are for the
  submission that is shown;
* `Stamped.load`, `Stamped.of_frame`, `Stamped.reconcile` — it stays so, whatever happens;
* `Stamped.ne_generation_load` — a load begins a generation that no order has seen;
* `View.concerns`, `View.awaits` — whether a result or an order is for an address of what the view
  shows now.
-/

namespace JudgeDesk

namespace View

/-- **Stamps.** After some number of loads the generation is that number, no order is of a later
generation, and the orders of this generation are for the submission that is shown. -/
structure Stamped (loads : Nat) (v : View) (orders : List Fetch) : Prop where
  /-- the generation counts the loads -/
  generation : v.generation.toNat = loads
  /-- no order is of a later generation -/
  old : ∀ f ∈ orders, f.generation.toNat ≤ loads
  /-- an order of this generation is for an artifact of the submission that is shown -/
  current : ∀ f ∈ orders, f.generation = v.generation →
    ∃ s, v.submission = some s ∧ f = Fetch.order s v.generation f.destination

variable {loads : Nat} {v v' : View} {orders orders' : List Fetch}

theorem stamped_blank : Stamped 0 {} [] :=
  ⟨rfl, fun _ hf => absurd hf List.not_mem_nil, fun _ hf => absurd hf List.not_mem_nil⟩

theorem Stamped.mono (h : v.Stamped loads orders) (hsub : orders' ⊆ orders) :
    v.Stamped loads orders' :=
  ⟨h.generation, fun f hf => h.old f (hsub hf), fun f hf => h.current f (hsub hf)⟩

theorem Stamped.of_frame (h : v.Stamped loads orders) (hsubmission : v'.submission = v.submission)
    (hgeneration : v'.generation = v.generation) : v'.Stamped loads orders := by
  refine ⟨?_, h.old, ?_⟩
  · rw [hgeneration, h.generation]
  · rw [hsubmission, hgeneration]
    exact h.current

theorem Stamped.toNat_generation_load (h : v.Stamped loads orders)
    (hloads : loads + 1 < UInt64.size) (s : Submission) :
    (v.load s).generation.toNat = loads + 1 := by
  change (v.generation + 1).toNat = loads + 1
  rw [UInt64.toNat_add, h.generation]
  exact Nat.mod_eq_of_lt hloads

/-- **A load begins a generation that no order has seen.** -/
theorem Stamped.ne_generation_load (h : v.Stamped loads orders)
    (hloads : loads + 1 < UInt64.size) (s : Submission) {f : Fetch} (hf : f ∈ orders) :
    f.generation ≠ (v.load s).generation := by
  intro heq
  have hold := h.old f hf
  rw [heq, h.toNat_generation_load hloads s] at hold
  omega

theorem Stamped.load (h : v.Stamped loads orders) (hloads : loads + 1 < UInt64.size)
    (s : Submission) : (v.load s).Stamped (loads + 1) orders := by
  refine ⟨h.toNat_generation_load hloads s, fun f hf => ?_, fun f hf hgen => ?_⟩
  · exact Nat.le_succ_of_le (h.old f hf)
  · exact absurd hgen (h.ne_generation_load hloads s hf)

theorem Stamped.reconcile (h : v.Stamped loads orders) :
    v.reconcile.1.Stamped loads (orders ++ v.reconcile.2) := by
  obtain ⟨hsubmission, hgeneration⟩ := v.reconcile_frame
  refine Stamped.of_frame ⟨h.generation, fun f hf => ?_, fun f hf hgen => ?_⟩
    hsubmission hgeneration
  · rcases List.mem_append.mp hf with hold | hnew
    · exact h.old f hold
    · obtain ⟨-, s, -, heq⟩ := eq_order_of_mem_reconcile hnew
      rw [heq]
      exact Nat.le_of_eq h.generation
  · rcases List.mem_append.mp hf with hold | hnew
    · exact h.current f hold hgen
    · exact (eq_order_of_mem_reconcile hnew).2

/-! ### What is for an address -/

/-- **Whether a result is for an address** of what the view shows now. -/
def concerns (v : View) (d : Address) (r : FetchResult) : Bool :=
  r.destination = d && r.generation = v.generation && v.submission.map (·.id) = some r.submissionId

/-- **Whether an order is for an address** of what the view shows now. -/
def awaits (v : View) (d : Address) (f : Fetch) : Bool :=
  f.destination = d && f.generation = v.generation && v.submission.map (·.id) = some f.submissionId

variable {d : Address} {r : FetchResult} {f : Fetch}

theorem concerns_complete (o : Outcome) : v.concerns d (f.complete o) = v.awaits d f := rfl

theorem concerns_eq : v.concerns d r = (decide (r.destination = d) && v.accepts r) := by
  rw [concerns, accepts, Bool.and_assoc, Bool.and_comm (decide (r.generation = v.generation))]

theorem concerns_congr (hsubmission : v'.submission = v.submission)
    (hgeneration : v'.generation = v.generation) : v'.concerns d = v.concerns d := by
  funext r
  rw [concerns, concerns, hsubmission, hgeneration]

theorem awaits_congr (hsubmission : v'.submission = v.submission)
    (hgeneration : v'.generation = v.generation) : v'.awaits d = v.awaits d := by
  funext f
  rw [awaits, awaits, hsubmission, hgeneration]

/-- A result changes the slot that it is for, and no other. -/
theorem change_fetched (v : View) (r : FetchResult) (d : Address) (s : Slot) :
    v.change (.fetched r) d s = if v.concerns d r then s.fulfill r.outcome else s := by
  rw [concerns_eq]
  by_cases hr : v.accepts r = true
  · by_cases hd : d = r.destination
    · simp only [change, Address.only, hr, hd, if_true, decide_true, Bool.and_self]
    · simp only [change, Address.only, hr, hd, if_true, if_false, Ne.symm hd, decide_false,
        Bool.false_and, Bool.false_eq_true]
  · simp only [change, hr, if_false, Bool.and_false, Bool.false_eq_true]

/-- An order of a pass is for the address that it was given for, and no other. -/
theorem awaits_order {s : Submission} (h : v.submission = some s) (d' : Address) :
    v.awaits d (Fetch.order s v.generation d') = decide (d' = d) := by
  simp only [awaits, Fetch.order, h, Option.map_some, decide_true, Bool.and_true]
  rfl

/-- **A pass gives one order for each address that is due**, and none for the others. -/
theorem countP_awaits_reconcile (v : View) (d : Address) :
    v.reconcile.2.countP (v.awaits d) = if d ∈ v.due then 1 else 0 := by
  rcases hs : v.submission with _ | s
  · simp only [reconcile_of_none hs, due, hs, List.countP_nil, List.not_mem_nil, if_false]
  · rw [orders_reconcile hs, List.countP_map]
    have hfun : v.awaits d ∘ Fetch.order s v.generation = fun d' => d' == d :=
      funext fun d' => awaits_order hs d'
    rw [hfun]
    exact v.nodup_due.count

/-- **After a load nothing is on the way.** -/
theorem Stamped.countP_awaits_load (h : v.Stamped loads orders) (hloads : loads + 1 < UInt64.size)
    (s : Submission) (d : Address) : orders.countP ((v.load s).awaits d) = 0 := by
  refine List.countP_eq_zero.mpr fun f hf hawaits => ?_
  simp only [awaits, Bool.and_eq_true, decide_eq_true_iff] at hawaits
  exact h.ne_generation_load hloads s hf hawaits.1.2

end View

end JudgeDesk
