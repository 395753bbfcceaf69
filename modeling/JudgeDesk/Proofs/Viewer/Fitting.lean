import JudgeDesk.Proofs.Viewer.InFlight

/-!
# What was ordered always fits

The number of tests changes with every load, so a result for the ninth test may come back to a view
that has only two. It is dropped, since it is of an earlier generation: a view has a slot for every
order of its own generation, and takes notice of no other. So nothing that a viewer ordered can ever
come back as a result that has no place in its view.

* `View.Fits` — a view has a slot for each order of its generation;
* `View.Stamped.fits_load`, `View.Fits.reconcile`, `View.Fits.attempt`, `Course.fits_run` — so it is
  in every run in which nothing but loading starts over;
* `Course.apply_fetched_of_load` — what was ordered before a load leaves the view as it is;
* `Course.Follows`, `Course.leadsTo_viewer_run` — what a viewer does is a course of its view;
* `Viewer.results_fit` — results of orders always fit, for views and for viewers.
-/

namespace JudgeDesk

/-- A test that has a slot can be changed. -/
theorem Tests.exists_update_of_slot? {ts : Tests} {n : Nat} {k : TestArtifact} {slot : Slot}
    (h : ts.slot? n k = some slot) (f : TestSlots → TestSlots) :
    ∃ ts', ts.update n f = .ok ts' := by
  rcases hposition : ts.position n with err | i
  · rw [slot?, test, hposition] at h
    cases h
  · exact ⟨_, by rw [update, hposition]; rfl⟩

/-- An intent that does not start over neither sets tests back nor loads. -/
theorem ViewIntent.eq_false_of_startsOver {intent : ViewIntent} (h : intent.startsOver = false) :
    (ViewStep.intent intent).isReset = false ∧ (ViewStep.intent intent).isLoad = false := by
  cases intent with
  | load s => cases h
  | test intent =>
    cases intent with
    | reset count => cases h
    | _ => exact ⟨rfl, rfl⟩
  | _ => exact ⟨rfl, rfl⟩

/-! ### Views -/

namespace View

variable {loads : Nat} {v : View} {orders : List Fetch} {f : Fetch}

/-- **Fitting.** A view has a slot for each order of its generation. -/
def Fits (v : View) (orders : List Fetch) : Prop :=
  ∀ f ∈ orders, f.generation = v.generation → ∃ slot, v.slot? f.destination = some slot

theorem fits_nil (v : View) : v.Fits [] := fun _ hf => absurd hf List.not_mem_nil

/-- No order is of the generation that a load begins. -/
theorem Stamped.fits_load (h : v.Stamped loads orders) (hloads : loads + 1 < UInt64.size)
    (s : Submission) : (v.load s).Fits orders :=
  fun _ hf hgen => absurd hgen (h.ne_generation_load hloads s hf)

/-- A pass leaves every slot where it is, and orders only what has a slot. -/
theorem Fits.reconcile (h : v.Fits orders) : v.reconcile.1.Fits (orders ++ v.reconcile.2) := by
  intro f hf hgen
  have hslot : ∃ slot, v.slot? f.destination = some slot := by
    rcases List.mem_append.mp hf with hold | hnew
    · exact h f hold (hgen.trans v.reconcile_frame.2)
    · exact exists_slot_of_mem_due (eq_order_of_mem_reconcile hnew).1
  obtain ⟨slot, hslot⟩ := hslot
  exact ⟨_, by rw [slot?_reconcile, hslot, Option.map_some]⟩

/-- An intent leaves every slot where it is, unless it starts over. -/
theorem Fits.attempt (h : v.Fits orders) {intent : ViewIntent} (hover : intent.startsOver = false) :
    (v.attempt intent).Fits orders := by
  intro f hf hgen
  have hgeneration := (v.attempt_frame (ViewIntent.ne_load hover)).2.1
  obtain ⟨slot, hslot⟩ := h f hf (hgen.trans hgeneration)
  exact ⟨_, by rw [v.slot?_attempt hover, hslot, Option.map_some]⟩

/-- A result of another generation leaves the view as it is. -/
theorem apply_fetched_of_ne {r : FetchResult} (h : r.generation ≠ v.generation) :
    v.apply (.fetched r) = .ok v := by
  have haccepts : v.accepts r = false := by
    rw [accepts, decide_eq_false h, Bool.and_false]
  simp only [apply, haccepts, Bool.false_eq_true, if_false]

/-- **A result that has a slot in its generation** is never refused. -/
theorem Fits.exists_apply_fetched (h : v.Fits orders) (hf : f ∈ orders) (o : Outcome) :
    ∃ v', v.apply (.fetched (f.complete o)) = .ok v' := by
  by_cases hgen : f.generation = v.generation
  · obtain ⟨slot, hslot⟩ := h f hf hgen
    have hdeliver : ∃ v', v.deliver (f.complete o) = .ok v' := by
      simp only [deliver, Fetch.complete]
      rcases hdest : f.destination with k | ⟨n, k⟩
      · exact ⟨_, rfl⟩
      · rw [hdest] at hslot
        obtain ⟨ts, hts⟩ := Tests.exists_update_of_slot? hslot (·.fulfill k o)
        exact ⟨{ v with tests := ts }, by simp only [Tests.apply, hts]; rfl⟩
    simp only [apply]
    split
    · exact hdeliver
    · exact ⟨v, rfl⟩
  · exact ⟨v, apply_fetched_of_ne hgen⟩

end View

/-! ### Courses -/

namespace Course

variable {loads : Nat} {c : Course} {steps : List ViewStep}

theorem fits_step (h : c.view.Fits c.orders) (hstamped : c.view.Stamped loads c.orders)
    (step : ViewStep) (hreset : step.isReset = false)
    (hloads : loads + [step].countP ViewStep.isLoad < UInt64.size) :
    (c.step step).view.Fits (c.step step).orders := by
  rcases c.step_cases step with ⟨s, rfl, heq⟩ | ⟨rfl, heq⟩ | ⟨intent, rfl, hload, hview, horders⟩
  · -- a load may leave fewer slots, but no order is of its generation yet
    rw [heq]
    exact hstamped.fits_load hloads s
  · rw [heq]
    exact h.reconcile
  · rw [hview, horders]
    exact h.attempt (ViewIntent.startsOver_eq_false hload hreset)

/-- **In every run the view fits its orders**, if nothing but loading starts over. -/
theorem fits_run (steps : List ViewStep) (hreset : ∀ step ∈ steps, step.isReset = false)
    (hloads : steps.countP ViewStep.isLoad < UInt64.size) :
    (run {} steps).view.Fits (run {} steps).orders := by
  induction steps using List.reverseRecOn with
  | nil => exact View.fits_nil _
  | append_singleton steps step ih =>
    have hloads' := hloads
    rw [List.countP_append] at hloads'
    have hfewer : steps.countP ViewStep.isLoad < UInt64.size := by omega
    have hsteps : ∀ step ∈ steps, step.isReset = false :=
      fun step hstep => hreset step (List.mem_append_left _ hstep)
    rw [run_concat]
    exact fits_step (ih hsteps hfewer) (stamped_run steps hfewer) step
      (hreset step List.mem_concat_self) hloads'

/-- **What was ordered before a load** leaves the view as it is. -/
theorem apply_fetched_of_load {before after : List ViewStep} {s : Submission}
    (hsteps : steps = before ++ .intent (.load s) :: after)
    (hloads : steps.countP ViewStep.isLoad < UInt64.size) {f : Fetch}
    (hf : f ∈ (run {} before).orders) (o : Outcome) :
    (run {} steps).view.apply (.fetched (f.complete o)) = .ok (run {} steps).view := by
  have hcount : steps.countP ViewStep.isLoad =
      before.countP ViewStep.isLoad + (after.countP ViewStep.isLoad + 1) := by
    rw [hsteps, List.countP_append, List.countP_cons_of_pos rfl]
  -- the generation counts the loads, and the order knows at most those before the one in question
  have hold := (stamped_run before (by omega)).old f hf
  have hgeneration := (stamped_run steps hloads).generation
  refine View.apply_fetched_of_ne fun hgen => ?_
  change f.generation = (run {} steps).view.generation at hgen
  rw [hgen] at hold
  omega

/-! ### Viewers -/

@[simp] theorem view_step_intent (c : Course) (intent : ViewIntent) :
    (c.step (.intent intent)).view = c.view.attempt intent := by
  cases intent <;> rfl

@[simp] theorem orders_step_intent (c : Course) (intent : ViewIntent) :
    (c.step (.intent intent)).orders = c.orders := by
  cases intent <;> rfl

theorem run_append (c : Course) (steps more : List ViewStep) :
    c.run (steps ++ more) = (c.run steps).run more :=
  List.foldl_append

/-- **A course follows a viewer** if it has come to the same view, and has all orders that are
outstanding. -/
structure Follows (c : Course) (v : Viewer) : Prop where
  /-- the view is the same -/
  view : c.view = v.view
  /-- all outstanding orders were given -/
  orders : v.outstanding ⊆ c.orders

variable {v v' : Viewer} {intent : ViewIntent} {orders : List Fetch}

/-- An order that comes back is not outstanding any more, but was given all the same. -/
theorem Follows.erase (h : c.Follows v) (order : Fetch) :
    c.Follows { v with outstanding := v.outstanding.erase order } :=
  ⟨h.view, fun _ hf => h.orders (List.mem_of_mem_erase hf)⟩

/-- What a viewer does upon an intent is that intent and a pass. -/
theorem Follows.perform (h : c.Follows v) (hperform : v.perform intent = .ok (v', orders)) :
    (c.run [.intent intent, .reconcile]).Follows v' := by
  rcases happly : v.view.apply intent with err | view
  · rw [Viewer.perform_of_error happly] at hperform
    cases hperform
  · rw [Viewer.perform_of_ok happly] at hperform
    cases hperform
    have hview : (c.step (.intent intent)).view = view := by
      rw [view_step_intent, h.view, View.attempt_of_ok happly]
    constructor
    · change (c.step (.intent intent)).view.reconcile.1 = view.reconcile.1
      rw [hview]
    · change _ ⊆ (c.step (.intent intent)).orders ++ (c.step (.intent intent)).view.reconcile.2
      rw [hview, orders_step_intent]
      exact List.append_subset.mpr ⟨List.subset_append_of_subset_left _ h.orders,
        List.subset_append_right _ _⟩

/-- **Going on.** A course can be followed up to a viewer by steps that load so many times, and do
not start over otherwise. -/
def LeadsTo (c : Course) (loads : Nat) (v : Viewer) : Prop :=
  ∃ steps, (∀ step ∈ steps, step.isReset = false) ∧ steps.countP ViewStep.isLoad = loads ∧
    (c.run steps).Follows v

theorem Follows.leadsTo (h : c.Follows v) : c.LeadsTo 0 v :=
  ⟨[], List.forall_mem_nil _, rfl, h⟩

/-- A viewer that is told an intent goes on by steps of its view, or stays as it was. -/
theorem Follows.told (h : c.Follows v) (intent : ViewIntent) (hover : intent.startsOver = false) :
    c.LeadsTo 0 (v.told intent) := by
  rcases hperform : v.perform intent with err | ⟨v', orders⟩
  · simp only [Viewer.told, hperform]
    exact h.leadsTo
  · simp only [Viewer.told, hperform]
    obtain ⟨hreset, hload⟩ := ViewIntent.eq_false_of_startsOver hover
    refine ⟨[.intent intent, .reconcile], ?_, ?_, h.perform hperform⟩
    · exact List.forall_mem_cons.mpr ⟨hreset, List.forall_mem_singleton.mpr rfl⟩
    · rw [List.countP_cons_of_neg (Bool.eq_false_iff.mp hload)]
      rfl

/-- What a viewer does upon an event is a course of its view. -/
theorem Follows.react (h : c.Follows v) (event : ViewerEvent) :
    c.LeadsTo ([event].countP ViewerEvent.isLoad) (v.react event) := by
  cases event with
  | toggleCompilation => exact h.told (.compilation .toggle) rfl
  | toggleTest n => exact h.told (.test (.toggle n)) rfl
  | reload result ttl now =>
    cases result with
    | error err => exact Follows.leadsTo ⟨h.view, h.orders⟩
    | ok s =>
      have hcleared : c.Follows { v with notification := none } := ⟨h.view, h.orders⟩
      refine ⟨[.intent (.load s), .reconcile], ?_, rfl, hcleared.perform rfl⟩
      exact List.forall_mem_cons.mpr ⟨rfl, List.forall_mem_singleton.mpr rfl⟩
  | finish i o =>
    rcases hi : v.outstanding[i]? with _ | order
    · simp only [Viewer.react, hi]
      exact h.leadsTo
    · simp only [Viewer.react, hi, Viewer.finished_fst]
      exact (h.erase order).told (.fetched (order.complete o)) rfl

/-- **What a viewer does is a course of its view** that loads as often as the viewer, and does not
start over otherwise. -/
theorem leadsTo_viewer_run (id : UInt64) (events : List ViewerEvent) :
    LeadsTo {} (events.countP ViewerEvent.isLoad) (Viewer.run { submissionId := id } events) := by
  induction events using List.reverseRecOn with
  | nil => exact Follows.leadsTo ⟨rfl, List.Subset.refl _⟩
  | append_singleton events event ih =>
    obtain ⟨steps, hreset, hcount, hfollows⟩ := ih
    obtain ⟨more, hreset', hcount', hfollows'⟩ := hfollows.react event
    refine ⟨steps ++ more, ?_, ?_, ?_⟩
    · exact List.forall_mem_append.mpr ⟨hreset, hreset'⟩
    · rw [List.countP_append, List.countP_append, hcount, hcount']
    · rw [run_append, Viewer.run_concat]
      exact hfollows'

end Course

/-! ### Results of orders -/

namespace Viewer

/-- **What a viewer ordered has a place in its view** when it comes back. -/
theorem exists_perform_fetched (id : UInt64) (events : List ViewerEvent)
    (hloads : events.countP ViewerEvent.isLoad < UInt64.size) {order : Fetch}
    (horder : order ∈ (run { submissionId := id } events).outstanding) (o : Outcome)
    (outstanding : List Fetch) :
    ∃ after, perform { run { submissionId := id } events with outstanding }
      (.fetched (order.complete o)) = .ok after := by
  obtain ⟨steps, hreset, hcount, hfollows⟩ := Course.leadsTo_viewer_run id events
  have hfits := Course.fits_run steps hreset (by rw [hcount]; exact hloads)
  obtain ⟨view, hview⟩ := hfits.exists_apply_fetched (hfollows.orders horder) o
  rw [hfollows.view] at hview
  exact ⟨_, perform_of_ok hview⟩

/-- **Results of orders always fit.** Whatever happened to a view, if only loading started over,
the result of any order that it ever gave is not refused, and leaves the view as it is if the order
was given before some load. So no order that a viewer waits for comes back without a place in its
view. -/
theorem results_fit :
    (∀ steps : List ViewStep, (∀ step ∈ steps, step.isReset = false) →
      steps.countP ViewStep.isLoad < UInt64.size →
      (∀ f ∈ (Course.run {} steps).orders, ∀ o,
        ∃ view, (Course.run {} steps).view.apply (.fetched (f.complete o)) = .ok view) ∧
      ∀ before s after, steps = before ++ .intent (.load s) :: after →
        ∀ f ∈ (Course.run {} before).orders, ∀ o,
          (Course.run {} steps).view.apply (.fetched (f.complete o)) =
            .ok (Course.run {} steps).view) ∧
    ∀ id events, events.countP ViewerEvent.isLoad < UInt64.size →
      ∀ order ∈ (run { submissionId := id } events).outstanding, ∀ o, ∃ after,
        perform
          { run { submissionId := id } events with
            outstanding := (run { submissionId := id } events).outstanding.erase order }
          (.fetched (order.complete o)) = .ok after := by
  refine ⟨fun steps hreset hloads => ⟨fun f hf o => ?_, ?_⟩, ?_⟩
  · exact (Course.fits_run steps hreset hloads).exists_apply_fetched hf o
  · exact fun before s after hsteps f hf o => Course.apply_fetched_of_load hsteps hloads hf o
  · exact fun id events hloads order horder o =>
      exists_perform_fetched id events hloads horder o _

/-- Steps in which the last of nine tests is ordered. -/
def ninthOrdered : List ViewStep :=
  [.intent (.load { Submission.ofOneTest 7 with
      testResults := List.replicate 9 { testNumber := 1, verdict := .accepted } }),
    .intent (.test (.toggle 9)), .reconcile]

/-- Steps after which the same submission has one test only, which is ordered. -/
def oneLeft : List ViewStep :=
  ninthOrdered ++ [.intent (.load (.ofOneTest 7)), .intent (.test (.toggle 1)), .reconcile]

theorem results_fit_oneLeft :
    (Course.run {} oneLeft).view.tests.count = 1 ∧
      (∀ o, (Course.run {} oneLeft).view.apply (.fetched ⟨7, 1, .test 9 .output, o⟩) =
        .ok (Course.run {} oneLeft).view) ∧
      (∀ o, ∃ view, (Course.run {} oneLeft).view.apply (.fetched ⟨7, 2, .test 1 .output, o⟩) =
        .ok view) ∧
      ∀ o, ∃ after,
        perform
          { run { submissionId := 7 } reloadedMeanwhile with
            outstanding := (run { submissionId := 7 } reloadedMeanwhile).outstanding.erase
              ⟨7, 1, .test 1 .answer, .problemTest 1 1 .answer⟩ }
          (.fetched ⟨7, 1, .test 1 .answer, o⟩) = .ok after := by
  obtain ⟨hsteps, hevents⟩ := results_fit
  obtain ⟨hfit, hload⟩ := hsteps oneLeft (by decide) (by decide)
  refine ⟨rfl, fun o => ?_, fun o => ?_, fun o => ?_⟩
  · exact hload ninthOrdered (.ofOneTest 7) _ rfl
      ⟨7, 1, .test 9 .output, .submissionTest 7 9 .output⟩ (by decide) o
  · exact hfit ⟨7, 2, .test 1 .output, .submissionTest 7 1 .output⟩ (by decide) o
  · exact hevents 7 reloadedMeanwhile (by decide)
      ⟨7, 1, .test 1 .answer, .problemTest 1 1 .answer⟩ (by decide) o

end Viewer

end JudgeDesk
