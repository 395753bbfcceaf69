import JudgeDesk.Proofs.View.Course

/-!
# Loading forgets everything

What a view does after a load does not depend on what it did before: nothing is left but the number
of its generation, and that only serves to tell the orders of one load from those of another. Orders
that were given before the load may come back afterwards, at any time and with anything; nothing
comes of that.

* `View.aged`, `View.apply_aged`, `View.reconcile_aged` — a view in a later generation does what it
  would have done before, to orders that are later by as much;
* `Sequel`, `Aftermath`, `Aftermath.follow` — what may happen after a load, and runs of it;
* `Aftermath.step_aged`, `Aftermath.step_belated` — a step of two views that differ in their
  generations, and one that only orders from before the load make;
* `Course.follow_load` — after a load every view does what a new one does.
-/

namespace JudgeDesk

/-! ### Later generations -/

/-- An order of a later generation. -/
def Fetch.aged (k : UInt64) (f : Fetch) : Fetch := { f with generation := f.generation + k }

/-- The result of an order of a later generation. -/
def FetchResult.aged (k : UInt64) (r : FetchResult) : FetchResult :=
  { r with generation := r.generation + k }

/-- An intent for a view in a later generation; only results are of a generation. -/
def ViewIntent.aged (k : UInt64) : ViewIntent → ViewIntent
  | .fetched r => .fetched (r.aged k)
  | intent => intent

/-- Of a later generation, a pass orders the same artifacts of the compilation. -/
theorem Compilation.reconcile_aged (c : Compilation) (s : Submission) (generation k : UInt64) :
    c.reconcile s (generation + k) =
      ((c.reconcile s generation).1, (c.reconcile s generation).2.map (Fetch.aged k)) := by
  unfold reconcile
  split <;> rfl

/-- Of a later generation, a pass orders the same artifacts of the tests. -/
theorem Tests.reconcile_aged (ts : Tests) (s : Submission) (generation k : UInt64) :
    ts.reconcile s (generation + k) =
      ((ts.reconcile s generation).1, (ts.reconcile s generation).2.map (Fetch.aged k)) := by
  unfold reconcile
  split
  · rfl
  · rw [List.map_map]
    rfl

namespace View

variable {v : View}

/-- **A view in a later generation.** -/
def aged (k : UInt64) (v : View) : View := { v with generation := v.generation + k }

theorem load_aged (v : View) (k : UInt64) (s : Submission) :
    (v.aged k).load s = (v.load s).aged k := by
  have hgeneration : v.generation + k + 1 = v.generation + 1 + k := by
    rw [UInt64.add_assoc, UInt64.add_comm k 1, ← UInt64.add_assoc]
  exact congrArg (fun generation => { v.load s with generation }) hgeneration

/-- A result belongs to the view in a later generation if it belonged to the view. -/
theorem accepts_aged (v : View) (k : UInt64) (r : FetchResult) :
    (v.aged k).accepts (r.aged k) = v.accepts r := by
  have hgeneration : decide (r.generation + k = v.generation + k) =
      decide (r.generation = v.generation) := decide_eq_decide.mpr (UInt64.add_left_inj k)
  dsimp only [accepts, aged, FetchResult.aged]
  rw [hgeneration]

theorem deliver_aged (v : View) (k : UInt64) (r : FetchResult) :
    (v.aged k).deliver (r.aged k) = (v.deliver r).map (aged k) := by
  simp only [deliver, FetchResult.aged]
  rcases r.destination with artifact | ⟨n, artifact⟩
  · rfl
  · dsimp only [aged]
    rcases v.tests.apply (.fulfill n artifact r.outcome) with _ | _ <;> rfl

/-- **A view in a later generation does with an intent what it would have done before.** -/
theorem apply_aged (v : View) (k : UInt64) (intent : ViewIntent) :
    (v.aged k).apply (intent.aged k) = (v.apply intent).map (aged k) := by
  cases intent with
  | load s => exact congrArg Except.ok (v.load_aged k s)
  | compilation intent => rfl
  | test intent =>
    simp only [ViewIntent.aged, apply, aged]
    rcases v.tests.apply intent with _ | _ <;> rfl
  | fetched r =>
    simp only [ViewIntent.aged, apply, accepts_aged]
    split
    · exact v.deliver_aged k r
    · rfl

theorem attempt_aged (v : View) (k : UInt64) (intent : ViewIntent) :
    (v.aged k).attempt (intent.aged k) = (v.attempt intent).aged k := by
  unfold attempt
  rw [apply_aged]
  rcases v.apply intent with _ | _ <;> rfl

/-- **A pass over a view in a later generation** orders the same, in that generation. -/
theorem reconcile_aged (v : View) (k : UInt64) :
    (v.aged k).reconcile = (v.reconcile.1.aged k, v.reconcile.2.map (Fetch.aged k)) := by
  rcases hs : v.submission with _ | s
  · rw [reconcile_of_none hs, reconcile_of_none (v := v.aged k) hs]
    rfl
  · simp only [reconcile, aged, hs, Compilation.reconcile_aged, Tests.reconcile_aged,
      List.map_append]

/-- Nothing comes of a result of another generation. -/
theorem attempt_fetched_of_ne {r : FetchResult} (h : r.generation ≠ v.generation) :
    v.attempt (.fetched r) = v := by
  rw [attempt_fetched, if_neg]
  simp only [accepts, h, decide_false, Bool.and_false, Bool.false_eq_true, not_false_eq_true]

end View

/-! ### After a load -/

/-- **What may happen after a load.** -/
inductive Sequel where
  /-- a submission is loaded again -/
  | load (submission : Submission)
  /-- something happens to the artifacts of the compilation -/
  | compilation (intent : CompilationIntent)
  /-- something happens to the artifacts of the tests -/
  | test (intent : TestIntent)
  /-- the artifacts that are due are ordered -/
  | reconcile
  /-- an order comes back, one of those given since the load -/
  | finish (position : Nat) (outcome : Outcome)
  /-- an order comes back, one of those given before the load -/
  | belated (position : Nat) (outcome : Outcome)

namespace Sequel

/-- Whether a submission is loaded. -/
def isLoad : Sequel → Bool
  | .load _ => true
  | _ => false

/-- Whether nothing from before the load is needed. -/
def isCommon : Sequel → Bool
  | .belated _ _ => false
  | _ => true

end Sequel

/-- **What followed a load.** -/
structure Aftermath where
  /-- the view -/
  view : View
  /-- the orders that were given since the load, in order -/
  orders : List Fetch := []
  /-- for everything that happened since the load, whether the view took it or why not -/
  answers : List (Except Error Unit) := []

namespace Aftermath

variable {w : Aftermath} {earlier : List Fetch} {k : UInt64}

/-- Something happens to the view, and it is noted whether the view took it. -/
def tell (w : Aftermath) (intent : ViewIntent) : Aftermath :=
  { w with
    view := w.view.attempt intent
    answers := w.answers ++ [(w.view.apply intent).map fun _ => ()] }

/-- **What followed, one step later**, if some orders were given before the load. -/
def step (earlier : List Fetch) (w : Aftermath) : Sequel → Aftermath
  | .load s => w.tell (.load s)
  | .compilation intent => w.tell (.compilation intent)
  | .test intent => w.tell (.test intent)
  | .reconcile => { w with view := w.view.reconcile.1, orders := w.orders ++ w.view.reconcile.2 }
  | .finish i o =>
    match w.orders[i]? with
    | some f => w.tell (.fetched (f.complete o))
    | none => w
  | .belated i o =>
    match earlier[i]? with
    | some f => { w with view := w.view.attempt (.fetched (f.complete o)) }
    | none => w

/-- **A run** of such steps. -/
def follow (earlier : List Fetch) (w : Aftermath) (sequel : List Sequel) : Aftermath :=
  sequel.foldl (step earlier) w

/-- **The same in a later generation.** -/
def aged (k : UInt64) (w : Aftermath) : Aftermath :=
  { w with view := w.view.aged k, orders := w.orders.map (Fetch.aged k) }

theorem tell_aged (w : Aftermath) (k : UInt64) (intent : ViewIntent) :
    (w.aged k).tell (intent.aged k) = (w.tell intent).aged k := by
  have hanswer : ((w.view.aged k).apply (intent.aged k)).map (fun _ => ()) =
      (w.view.apply intent).map fun _ => () := by
    rw [View.apply_aged]
    rcases w.view.apply intent with _ | _ <;> rfl
  simp only [tell, aged, View.attempt_aged, hanswer]

/-- **Two views that differ in their generations** go through a common step alike. -/
theorem step_aged (w : Aftermath) (k : UInt64) (earlier earlier' : List Fetch) {t : Sequel}
    (h : t.isCommon = true) : (w.aged k).step earlier t = (w.step earlier' t).aged k := by
  cases t with
  | load s => exact w.tell_aged k (.load s)
  | compilation intent => exact w.tell_aged k (.compilation intent)
  | test intent => exact w.tell_aged k (.test intent)
  | reconcile => simp only [step, aged, View.reconcile_aged, List.map_append]
  | finish i o =>
    have horder : (w.aged k).orders[i]? = w.orders[i]?.map (Fetch.aged k) := List.getElem?_map
    simp only [step, horder]
    rcases w.orders[i]? with _ | f
    · rfl
    · exact w.tell_aged k (.fetched (f.complete o))
  | belated i o => cases h

/-- **Nothing comes of an order from before the load.** -/
theorem step_belated (h : ∀ f ∈ earlier, f.generation ≠ w.view.generation) (i : Nat)
    (o : Outcome) : w.step earlier (.belated i o) = w := by
  rcases hi : earlier[i]? with _ | f
  · simp only [step, hi]
  · have hother : (f.complete o).generation ≠ w.view.generation :=
      h f (List.mem_of_getElem? hi)
    simp only [step, hi, View.attempt_fetched_of_ne hother]

/-- Only a load begins a generation. -/
theorem generation_step (w : Aftermath) (earlier : List Fetch) {t : Sequel}
    (h : t.isLoad = false) : (w.step earlier t).view.generation = w.view.generation := by
  have hkeep (intent : ViewIntent) (hload : ∀ s, intent ≠ .load s) :
      (w.view.attempt intent).generation = w.view.generation :=
    (w.view.attempt_frame hload).2.1
  cases t with
  | load s => cases h
  | compilation intent => exact hkeep (.compilation intent) fun _ => ViewIntent.noConfusion
  | test intent => exact hkeep (.test intent) fun _ => ViewIntent.noConfusion
  | reconcile => exact w.view.reconcile_frame.2
  | finish i o =>
    rcases hi : w.orders[i]? with _ | f
    · simp only [step, hi]
    · simp only [step, hi]
      exact hkeep (.fetched (f.complete o)) fun _ => ViewIntent.noConfusion
  | belated i o =>
    rcases hi : earlier[i]? with _ | f
    · simp only [step, hi]
    · simp only [step, hi]
      exact hkeep (.fetched (f.complete o)) fun _ => ViewIntent.noConfusion

/-- The generation counts the loads. -/
theorem toNat_generation_step (w : Aftermath) (earlier : List Fetch) (t : Sequel)
    (hloads : w.view.generation.toNat + (if t.isLoad then 1 else 0) < UInt64.size) :
    (w.step earlier t).view.generation.toNat =
      w.view.generation.toNat + if t.isLoad then 1 else 0 := by
  cases hload : t.isLoad with
  | false =>
    rw [generation_step w earlier hload]
    rfl
  | true =>
    obtain ⟨s, rfl⟩ : ∃ s, t = .load s := by
      cases t with
      | load s => exact ⟨s, rfl⟩
      | _ => cases hload
    change (w.view.generation + 1).toNat = w.view.generation.toNat + 1
    rw [UInt64.toNat_add]
    exact Nat.mod_eq_of_lt hloads

/-- **A view in a later generation goes through everything that follows alike**, and what was
ordered in generations before its own makes no difference. -/
theorem follow_aged (w : Aftermath) (k : UInt64) (sequel : List Sequel)
    (hearlier : ∀ f ∈ earlier, f.generation.toNat < (w.aged k).view.generation.toNat)
    (hloads : (w.aged k).view.generation.toNat + sequel.countP Sequel.isLoad < UInt64.size) :
    (w.aged k).follow earlier sequel =
      (w.follow [] (sequel.filter Sequel.isCommon)).aged k := by
  induction sequel generalizing w with
  | nil => rfl
  | cons t rest ih =>
    rw [List.countP_cons] at hloads
    rcases hcommon : t.isCommon with _ | _
    · -- an order from before the load is of an earlier generation, and nothing comes of it
      obtain ⟨i, o, rfl⟩ : ∃ i o, t = .belated i o := by
        cases t with
        | belated i o => exact ⟨i, o, rfl⟩
        | _ => cases hcommon
      have hne : ∀ f ∈ earlier, f.generation ≠ (w.aged k).view.generation :=
        fun f hf heq => Nat.ne_of_lt (hearlier f hf) (congrArg UInt64.toNat heq)
      rw [List.filter_cons_of_neg (by rw [hcommon]; exact Bool.false_ne_true), follow,
        List.foldl_cons, step_belated hne]
      exact ih w hearlier hloads
    · have hstep : (w.aged k).step earlier t = (w.step [] t).aged k := w.step_aged k _ _ hcommon
      have hgeneration := (w.aged k).toNat_generation_step earlier t (by omega)
      rw [hstep] at hgeneration
      rw [List.filter_cons_of_pos hcommon, follow, List.foldl_cons, hstep]
      refine ih (w.step [] t) (fun f hf => ?_) ?_
      · rw [hgeneration]
        exact Nat.lt_add_right _ (hearlier f hf)
      · rw [hgeneration]
        omega

end Aftermath

/-! ### Any view and a new one -/

namespace Course

/-- **Loading forgets everything.** Whatever a view went through, after a load it takes and refuses
what a new view takes and refuses after the same load, gives the same orders and comes to be the
same, except that its generations are later by those that it went through. Orders from before the
load make no difference, at whatever time they come back. -/
theorem follow_load (past : List ViewStep) (s : Submission) (sequel : List Sequel)
    (hloads : past.countP ViewStep.isLoad + 1 + sequel.countP Sequel.isLoad < UInt64.size) :
    let c := run {} past
    let after : Aftermath := { view := c.view.load s }
    let anew : Aftermath := { view := View.load {} s }
    let common := sequel.filter Sequel.isCommon
    (after.follow c.orders sequel).answers = (anew.follow [] common).answers ∧
      (after.follow c.orders sequel).orders =
        (anew.follow [] common).orders.map (Fetch.aged c.view.generation) ∧
      (after.follow c.orders sequel).view =
        (anew.follow [] common).view.aged c.view.generation := by
  intro c after anew common
  have hstamped : c.view.Stamped (past.countP ViewStep.isLoad) c.orders :=
    stamped_run past (by omega)
  have hafter : after = anew.aged c.view.generation :=
    congrArg (fun generation => ({ view := { c.view.load s with generation } } : Aftermath))
      (UInt64.add_comm c.view.generation 1)
  have hgeneration : (anew.aged c.view.generation).view.generation.toNat =
      past.countP ViewStep.isLoad + 1 := by
    rw [← hafter]
    exact hstamped.toNat_generation_load (by omega) s
  have hfollow : after.follow c.orders sequel = (anew.follow [] common).aged c.view.generation := by
    rw [hafter]
    refine Aftermath.follow_aged anew c.view.generation sequel (fun f hf => ?_) ?_
    · rw [hgeneration]
      exact Nat.lt_succ_of_le (hstamped.old f hf)
    · rwa [hgeneration]
  rw [hfollow]
  exact ⟨rfl, rfl, rfl⟩

/-- A past in which everything is shown and ordered. -/
def allShown : List ViewStep :=
  [.intent (.load (.ofOneTest 7)), .intent (.compilation .toggle), .intent (.test (.toggle 1)),
    .reconcile]

/-- A sequel in which orders from before the load come back before, between and after those that are
given anew, and the submission is loaded once more. -/
def allBelated : List Sequel :=
  [.belated 2 (.ok (.ofText "1 2")), .test (.toggle 1), .test (.toggle 2), .reconcile,
    .belated 2 (.error "late"), .finish 0 (.ok (.ofText "1 2")), .belated 3 (.ok (.ofText "3")),
    .load (.ofOneTest 7), .finish 1 (.ok (.ofText "3")), .compilation .toggle, .reconcile,
    .belated 0 (.error "late")]

theorem follow_load_allBelated :
    (run {} allShown).orders.length = 7 ∧
      (Aftermath.follow (run {} allShown).orders
        { view := (run {} allShown).view.load (.ofOneTest 7) } allBelated).orders.length = 7 ∧
      (Aftermath.follow (run {} allShown).orders
        { view := (run {} allShown).view.load (.ofOneTest 7) } allBelated).view =
          (Aftermath.follow [] { view := View.load {} (.ofOneTest 7) }
            (allBelated.filter Sequel.isCommon)).view.aged 1 :=
  ⟨by decide, by decide, (follow_load allShown (.ofOneTest 7) allBelated (by decide)).2.2⟩

end Course

end JudgeDesk
