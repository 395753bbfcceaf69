import Mathlib.Data.List.Induction
import JudgeDesk.Proofs.View.Stamps

/-!
# The course of a view

A view is followed from its beginning through any number of steps, each of them an intent or a pass
of reconciliation. The *course* keeps what the view itself forgets: all orders that were given, and
the results that came since the last load.

* `ViewStep`, `Course.step`, `Course.run` — steps, and runs of them;
* `Course.stamped_run` — in every run the orders carry the stamps of the view that gave them;
* `Course.AskedOnce` — what was ordered in the current generation was asked for, and nothing was
  ordered twice in one generation;
* `Course.nodup_orders_run` — in every run each artifact is ordered at most once per load.

The marks are what keeps orders from being repeated: an order sets the mark of its artifact, nothing
but starting over takes a mark away, and a load begins a generation that no order has seen.
-/

namespace JudgeDesk

/-- **A step** in the course of a view. -/
inductive ViewStep where
  /-- something happens to the view -/
  | intent (intent : ViewIntent)
  /-- the artifacts that are due are ordered -/
  | reconcile

/-- A submission that was compiled and has the result of one test. -/
def Submission.ofOneTest (id : UInt64) : Submission where
  id
  problemId := 1
  language := "cpp"
  score := .zero false
  verdict := .accepted
  testResults := [{ testNumber := 1, verdict := .accepted }]
  compilationResult := some { verdict := .compiled }

namespace ViewStep

/-- Whether a step loads a submission. -/
def isLoad : ViewStep → Bool
  | .intent (.load _) => true
  | _ => false

/-- Whether a step starts over with the tests alone. -/
def isReset : ViewStep → Bool
  | .intent (.test (.reset _)) => true
  | _ => false

end ViewStep

/-- What starts over is a load or a reset. -/
theorem ViewIntent.startsOver_eq_false {intent : ViewIntent} (hload : ∀ s, intent ≠ .load s)
    (hreset : (ViewStep.intent intent).isReset = false) : intent.startsOver = false := by
  cases intent with
  | load s => exact absurd rfl (hload s)
  | test intent =>
    cases intent with
    | reset count => cases hreset
    | _ => rfl
  | _ => rfl

/-- **The course of a view.** -/
structure Course where
  /-- the view -/
  view : View := {}
  /-- all orders that were given, in order -/
  orders : List Fetch := []
  /-- the results that came since the last load, the last one in front -/
  arrivals : List FetchResult := []

namespace Course

/-- **The course after a step.** An intent that is refused leaves the view as it was. -/
def step (c : Course) : ViewStep → Course
  | .intent (.load s) => { c with view := c.view.load s, arrivals := [] }
  | .intent (.fetched r) =>
    { c with view := c.view.attempt (.fetched r), arrivals := r :: c.arrivals }
  | .intent intent => { c with view := c.view.attempt intent }
  | .reconcile =>
    { c with view := c.view.reconcile.1, orders := c.orders ++ c.view.reconcile.2 }

/-- **A run**: steps one after the other. -/
def run (c : Course) (steps : List ViewStep) : Course := steps.foldl step c

@[simp] theorem run_concat (c : Course) (steps : List ViewStep) (step : ViewStep) :
    c.run (steps ++ [step]) = (c.run steps).step step := by
  simp only [run, List.foldl_append, List.foldl_cons, List.foldl_nil]

/-- **What a step can do**: it loads, it reconciles, or it is another intent, which gives no
order. -/
theorem step_cases (c : Course) (step : ViewStep) :
    (∃ s, step = .intent (.load s) ∧
      c.step step = { c with view := c.view.load s, arrivals := [] }) ∨
    (step = .reconcile ∧ c.step step =
      { c with view := c.view.reconcile.1, orders := c.orders ++ c.view.reconcile.2 }) ∨
    (∃ intent, step = .intent intent ∧ (∀ s, intent ≠ .load s) ∧
      (c.step step).view = c.view.attempt intent ∧ (c.step step).orders = c.orders) := by
  rcases step with intent | _
  · refine (em (∃ s, intent = .load s)).imp ?_ fun hload => .inr ⟨intent, rfl, ?_, ?_⟩
    · rintro ⟨s, rfl⟩
      exact ⟨s, rfl, rfl⟩
    · exact fun s h => hload ⟨s, h⟩
    · cases intent with
      | load s => exact absurd ⟨s, rfl⟩ hload
      | _ => exact ⟨rfl, rfl⟩
  · exact .inr (.inl ⟨rfl, rfl⟩)

/-! ### Stamps -/

variable {loads : Nat} {c : Course}

theorem stamped_step (h : c.view.Stamped loads c.orders) (step : ViewStep)
    (hloads : loads + [step].countP ViewStep.isLoad < UInt64.size) :
    (c.step step).view.Stamped (loads + [step].countP ViewStep.isLoad) (c.step step).orders := by
  rcases c.step_cases step with ⟨s, rfl, heq⟩ | ⟨rfl, heq⟩ | ⟨intent, rfl, hload, hview, horders⟩
  · rw [heq]
    exact h.load hloads s
  · rw [heq]
    exact h.reconcile
  · obtain ⟨hsubmission, hgeneration, -⟩ := c.view.attempt_frame hload
    have hnone : [ViewStep.intent intent].countP ViewStep.isLoad = 0 := by
      cases intent with
      | load s => exact absurd rfl (hload s)
      | _ => rfl
    rw [hview, horders, hnone]
    exact h.of_frame hsubmission hgeneration

/-- **In every run the orders carry the stamps of the view that gave them.** -/
theorem stamped_run (steps : List ViewStep)
    (hloads : steps.countP ViewStep.isLoad < UInt64.size) :
    (run {} steps).view.Stamped (steps.countP ViewStep.isLoad) (run {} steps).orders := by
  induction steps using List.reverseRecOn with
  | nil => exact View.stamped_blank
  | append_singleton steps step ih =>
    rw [List.countP_append] at hloads ⊢
    rw [run_concat]
    exact stamped_step (ih (by omega)) step hloads

/-! ### Marks -/

/-- **Asked once.** What was ordered in the current generation was asked for, and nothing was
ordered twice in one generation. -/
structure AskedOnce (c : Course) : Prop where
  /-- what was ordered in this generation was asked for -/
  asked : ∀ f ∈ c.orders, f.generation = c.view.generation → c.view.isAsked f.destination = true
  /-- nothing was ordered twice in one generation -/
  once : (c.orders.map fun f => (f.generation, f.destination)).Nodup

theorem askedOnce_blank : AskedOnce {} :=
  ⟨fun _ hf => absurd hf List.not_mem_nil, List.nodup_nil⟩

/-- What a pass orders was not ordered before in this generation. -/
theorem AskedOnce.reconcile (h : c.AskedOnce) : (c.step .reconcile).AskedOnce := by
  have hnew {f : Fetch} (hf : f ∈ c.view.reconcile.2) :
      f.generation = c.view.generation ∧ f.destination ∈ c.view.due := by
    obtain ⟨hd, s, -, heq⟩ := View.eq_order_of_mem_reconcile hf
    exact ⟨by rw [heq]; rfl, hd⟩
  constructor
  · intro f hf hgen
    change c.view.reconcile.1.isAsked f.destination = true
    rw [View.isAsked_reconcile, Bool.or_eq_true, decide_eq_true_iff]
    rcases List.mem_append.mp hf with hold | hf
    · exact .inl (h.asked f hold (hgen.trans c.view.reconcile_frame.2))
    · exact .inr (hnew hf).2
  · change ((c.orders ++ c.view.reconcile.2).map fun f => (f.generation, f.destination)).Nodup
    rw [List.map_append]
    refine List.nodup_append.mpr ⟨h.once, ?_, ?_⟩
    · -- within a pass the destinations already differ
      have hdue := c.view.nodup_due
      rw [← c.view.map_destination_reconcile] at hdue
      refine List.Nodup.of_map Prod.snd ?_
      rwa [List.map_map]
    · -- an older order of this generation has left its mark
      intro p hp q hq hpq
      obtain ⟨f, hf, rfl⟩ := List.mem_map.mp hp
      obtain ⟨g, hg, rfl⟩ := List.mem_map.mp hq
      obtain ⟨hgen, hdest⟩ := Prod.mk.inj hpq
      have hasked := h.asked f hf (hgen.trans (hnew hg).1)
      rw [hdest, View.isAsked_of_mem_due (hnew hg).2] at hasked
      cases hasked

theorem AskedOnce.step (h : c.AskedOnce) (hstamped : c.view.Stamped loads c.orders)
    (step : ViewStep) (hreset : step.isReset = false)
    (hloads : loads + [step].countP ViewStep.isLoad < UInt64.size) : (c.step step).AskedOnce := by
  rcases c.step_cases step with ⟨s, rfl, heq⟩ | ⟨rfl, heq⟩ | ⟨intent, rfl, hload, hview, horders⟩
  · rw [heq]
    exact ⟨fun f hf hgen => absurd hgen (hstamped.ne_generation_load hloads s hf), h.once⟩
  · exact h.reconcile
  · -- another intent gives no order, and takes no mark away
    refine ⟨fun f hf hgen => ?_, ?_⟩
    · rw [horders] at hf
      rw [hview, (c.view.attempt_frame hload).2.1] at hgen
      rw [hview]
      exact View.isAsked_attempt (ViewIntent.startsOver_eq_false hload hreset) (h.asked f hf hgen)
    · rw [horders]
      exact h.once

theorem askedOnce_run (steps : List ViewStep) (hreset : ∀ step ∈ steps, step.isReset = false)
    (hloads : steps.countP ViewStep.isLoad < UInt64.size) : (run {} steps).AskedOnce := by
  induction steps using List.reverseRecOn with
  | nil => exact askedOnce_blank
  | append_singleton steps step ih =>
    -- the stamps of the shorter run tell its orders from those of a load that follows
    have hloads' := hloads
    rw [List.countP_append] at hloads'
    have hfewer : steps.countP ViewStep.isLoad < UInt64.size := by omega
    have hsteps : ∀ step ∈ steps, step.isReset = false :=
      fun step hstep => hreset step (List.mem_append_left _ hstep)
    rw [run_concat]
    exact (ih hsteps hfewer).step (stamped_run steps hfewer) step
      (hreset step List.mem_concat_self) hloads'

/-- **Each artifact is ordered at most once per load.** Whatever is shown, hidden, asked for or
answered, and however often a submission is loaded, no two orders of a run are for the same address
in the same generation, as long as nothing but loading starts over. -/
theorem nodup_orders_run (steps : List ViewStep)
    (hreset : ∀ step ∈ steps, step.isReset = false)
    (hloads : steps.countP ViewStep.isLoad < UInt64.size) :
    ((run {} steps).orders.map fun f => (f.generation, f.destination)).Nodup :=
  (askedOnce_run steps hreset hloads).once

/-- A run in which slots are shown again, a result comes from nowhere and the submission is loaded
twice. -/
def shownAgain : List ViewStep :=
  [.intent (.load (.ofOneTest 7)), .intent (.compilation .toggle), .intent (.test (.toggle 1)),
    .reconcile, .intent (.test (.toggle 1)), .intent (.test (.toggle 1)),
    .intent (.test (.toggle 2)), .intent (.fetched ⟨7, 1, .test 1 .input, .error "gone"⟩), .reconcile,
    .intent (.load (.ofOneTest 7)), .intent (.test (.toggle 1)), .reconcile, .reconcile]

theorem nodup_orders_shownAgain :
    (run {} shownAgain).orders.length = 12 ∧
      ((run {} shownAgain).orders.map fun f => (f.generation, f.destination)).Nodup :=
  ⟨by decide, nodup_orders_run shownAgain (by decide) (by decide)⟩

end Course

end JudgeDesk
