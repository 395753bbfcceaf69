import Mathlib.Data.List.Count
import JudgeDesk.Viewer.Basic
import JudgeDesk.Proofs.View.Course

/-!
# What is on the way

A viewer orders what is due after everything that happens to its view, and each order comes back
once. So a slot is in flight exactly while one outstanding order is for it: no download is lost, and
none is made twice.

* `ViewerEvent`, `Viewer.react`, `Viewer.run` — what happens to a viewer, and runs of it;
* `Viewer.awaited` — how many outstanding orders are for an address of what is shown;
* `View.Tracked` — a slot is in flight if one order is for it, otherwise there is none;
* `Tracked.load`, `Tracked.reconcile`, `Tracked.toggle`, `Tracked.finish` — it stays so;
* `Viewer.inFlight_iff_run` — so it is in every run.
-/

namespace JudgeDesk

/-- **What happens to a viewer.** -/
inductive ViewerEvent where
  /-- the artifacts of the compilation are shown or hidden -/
  | toggleCompilation
  /-- the artifacts of a test are shown or hidden -/
  | toggleTest (test : Nat)
  /-- the submission is asked for again, and comes or does not -/
  | reload (result : Except Error Submission) (ttl : Duration) (now : Timestamp)
  /-- the order at a position of those outstanding comes back -/
  | finish (position : Nat) (outcome : Outcome)

/-- Whether an event loads a submission. -/
def ViewerEvent.isLoad : ViewerEvent → Bool
  | .reload (.ok _) _ _ => true
  | _ => false

namespace Viewer

/-- A viewer that is told an intent; it stays as it was if the intent is refused. -/
def told (v : Viewer) (intent : ViewIntent) : Viewer :=
  match v.perform intent with
  | .ok (v', _) => v'
  | .error _ => v

/-- **A viewer after an event.** -/
def react (v : Viewer) : ViewerEvent → Viewer
  | .toggleCompilation => v.told (.compilation .toggle)
  | .toggleTest n => v.told (.test (.toggle n))
  | .reload result ttl now => (v.loaded result ttl now).1
  | .finish i outcome =>
    match v.outstanding[i]? with
    | some order => (v.finished order outcome).1
    | none => v

/-- **A run**: events one after the other. -/
def run (v : Viewer) (events : List ViewerEvent) : Viewer := events.foldl react v

@[simp] theorem run_concat (v : Viewer) (events : List ViewerEvent) (event : ViewerEvent) :
    v.run (events ++ [event]) = (v.run events).react event := by
  simp only [run, List.foldl_append, List.foldl_cons, List.foldl_nil]

/-- **How many outstanding orders are for an address** of what is shown now. -/
def awaited (v : Viewer) (d : Address) : Nat := v.outstanding.countP (v.view.awaits d)

end Viewer

/-! ### Views with their outstanding orders -/

namespace Slot

/-- A slot that is in flight was asked for. -/
theorem requested_of_state_eq_inFlight {s : Slot} (h : s.state = .inFlight) :
    s.requested = true := by
  unfold state at h
  split at h
  · cases h
  · cases h
  · split at h
    · assumption
    · cases h

/-- What came of a request is not in flight any more. -/
theorem state_fulfill_ne (s : Slot) (o : Outcome) : (s.fulfill o).state ≠ .inFlight := by
  cases o <;> exact nofun

end Slot

namespace View

/-- **Tracking.** The outstanding orders of a view are those that its slots wait for. -/
structure Tracked (loads : Nat) (v : View) (outstanding : List Fetch) : Prop where
  /-- the orders have the stamps of the view that gave them -/
  stamped : v.Stamped loads outstanding
  /-- one order is for a slot in flight, and none for any other slot -/
  awaited : ∀ {d slot}, v.slot? d = some slot →
    outstanding.countP (v.awaits d) = if slot.state = .inFlight then 1 else 0
  /-- the artifacts of the compilation are marked together -/
  asked : ∀ {d slot}, v.slot? d = some slot → slot.requested = v.isAsked d
  /-- a slot that was never asked for is blank -/
  blank : ∀ {d slot}, v.slot? d = some slot → slot.requested = false → slot = {}

variable {loads : Nat} {v : View} {outstanding outstanding' : List Fetch}

/-- A view all of whose slots are blank is tracked if no order is for any of them. -/
theorem tracked_of_blank (hstamped : v.Stamped loads outstanding)
    (hnone : ∀ d, outstanding.countP (v.awaits d) = 0) (hpair : v.compilation.requested = false)
    (hblank : ∀ {d slot}, v.slot? d = some slot → slot = {}) : v.Tracked loads outstanding := by
  refine ⟨hstamped, fun {d slot} hslot => ?_, fun {d slot} hslot => ?_, fun hslot _ => hblank hslot⟩
  · obtain rfl := hblank hslot
    exact hnone d
  · rcases d with k | ⟨n, k⟩
    · obtain rfl := hblank hslot
      exact hpair.symm
    · exact requested_eq_isAsked_test hslot

theorem tracked_blank : Tracked 0 {} [] :=
  tracked_of_blank stamped_blank (fun _ => rfl) rfl eq_blank_of_slot?_blank

/-- **A load forgets everything that is on the way.** -/
theorem Tracked.load (h : v.Tracked loads outstanding) (hloads : loads + 1 < UInt64.size)
    (s : Submission) : (v.load s).Tracked (loads + 1) outstanding :=
  tracked_of_blank (h.stamped.load hloads s) (h.stamped.countP_awaits_load hloads s) rfl
    eq_blank_of_slot?_load

/-- **A pass sets on the way what it marks**, and nothing else. -/
theorem Tracked.reconcile (h : v.Tracked loads outstanding) :
    v.reconcile.1.Tracked loads (outstanding ++ v.reconcile.2) := by
  have hcount (d : Address) :
      (outstanding ++ v.reconcile.2).countP (v.reconcile.1.awaits d) =
        outstanding.countP (v.awaits d) + if d ∈ v.due then 1 else 0 := by
    rw [awaits_congr v.reconcile_frame.1 v.reconcile_frame.2, List.countP_append,
      countP_awaits_reconcile]
  -- what is due was never asked for, so its slot is blank
  have hdue {d : Address} {slot : Slot} (hslot : v.slot? d = some slot) (hd : d ∈ v.due) :
      slot = {} :=
    h.blank hslot ((h.asked hslot).trans (isAsked_of_mem_due hd))
  refine ⟨h.stamped.reconcile, fun {d slot} hslot => ?_, fun {d slot} hslot => ?_,
    fun {d slot} hslot hreq => ?_⟩
  all_goals obtain ⟨before, hbefore, rfl⟩ := exists_of_slot?_reconcile hslot
  · rw [hcount, h.awaited hbefore]
    by_cases hd : d ∈ v.due
    · obtain rfl := hdue hbefore hd
      rw [if_pos hd, if_pos hd]
      rfl
    · rw [if_neg hd, if_neg hd, Nat.add_zero]
  · rw [isAsked_reconcile, ← h.asked hbefore]
    by_cases hd : d ∈ v.due
    · rw [if_pos hd, decide_eq_true hd, Bool.or_true]
      rfl
    · rw [if_neg hd, decide_eq_false hd, Bool.or_false]
  · by_cases hd : d ∈ v.due
    · rw [if_pos hd] at hreq
      cases hreq
    · rw [if_neg hd] at hreq ⊢
      exact h.blank hbefore hreq

/-- What happens to single slots, without asking for anything, keeps a view tracked if the orders
that go away are those for slots that are not in flight any more. -/
theorem Tracked.attempt (h : v.Tracked loads outstanding) {intent : ViewIntent}
    (hover : intent.startsOver = false) (hpair : intent.asksForPair = false)
    (hrequested : ∀ d s, (v.change intent d s).requested = s.requested)
    (hsub : outstanding' ⊆ outstanding)
    (hawaited : ∀ {d slot}, v.slot? d = some slot → outstanding'.countP (v.awaits d) =
      if (v.change intent d slot).state = .inFlight then 1 else 0)
    (hblank : ∀ {d slot}, v.slot? d = some slot → slot.requested = false →
      v.change intent d slot = slot) :
    (v.attempt intent).Tracked loads outstanding' := by
  obtain ⟨hsubmission, hgeneration, hmark⟩ := v.attempt_frame (ViewIntent.ne_load hover)
  refine ⟨(h.stamped.mono hsub).of_frame hsubmission hgeneration, fun {d slot} hslot => ?_,
    fun {d slot} hslot => ?_, fun {d slot} hslot hreq => ?_⟩
  · obtain ⟨before, hbefore, rfl⟩ := exists_of_slot?_attempt hover hslot
    rw [awaits_congr hsubmission hgeneration, hawaited hbefore]
  · rcases d with k | ⟨n, k⟩
    · obtain ⟨before, hbefore, rfl⟩ := exists_of_slot?_attempt hover hslot
      change _ = (v.attempt intent).compilation.requested
      rw [hrequested, h.asked hbefore, hmark, hpair, Bool.or_false]
      rfl
    · exact requested_eq_isAsked_test hslot
  · obtain ⟨before, hbefore, rfl⟩ := exists_of_slot?_attempt hover hslot
    rw [hrequested] at hreq
    rw [hblank hbefore hreq]
    exact h.blank hbefore hreq

theorem Tracked.toggle (h : v.Tracked loads outstanding) {intent : ViewIntent}
    (hover : intent.startsOver = false) (hpair : intent.asksForPair = false)
    (hchange : ∀ d s, v.change intent d s = s) : (v.attempt intent).Tracked loads outstanding := by
  refine h.attempt hover hpair (fun d s => ?_) (fun _ hf => hf) (fun {d slot} hslot => ?_)
    fun {d slot} _ _ => hchange d slot
  · rw [hchange]
  · rw [hchange, h.awaited hslot]

/-- An outstanding order is for a slot only if that is in flight. -/
theorem Tracked.state_eq_inFlight (h : v.Tracked loads outstanding) {order : Fetch}
    (horder : order ∈ outstanding) {d : Address} {slot : Slot} (hslot : v.slot? d = some slot)
    (hawaits : v.awaits d order = true) : slot.state = .inFlight := by
  by_contra hstate
  have hcount := h.awaited hslot
  rw [if_neg hstate] at hcount
  exact List.countP_eq_zero.mp hcount order horder hawaits

/-- An order that comes back changes the slot that it is for, and no other. -/
theorem change_complete (v : View) (order : Fetch) (o : Outcome) (d : Address) (s : Slot) :
    v.change (.fetched (order.complete o)) d s =
      if v.awaits d order then s.fulfill o else s := by
  rw [change_fetched, concerns_complete]
  rfl

/-- **An order that comes back is taken off the list**, and its slot is not in flight any more, if
it still has one. -/
theorem Tracked.finish (h : v.Tracked loads outstanding) {order : Fetch}
    (horder : order ∈ outstanding) (o : Outcome) :
    (v.attempt (.fetched (order.complete o))).Tracked loads (outstanding.erase order) := by
  refine h.attempt rfl rfl (fun d s => ?_) List.erase_subset (fun {d slot} hslot => ?_)
    fun {d slot} hslot hreq => ?_
  · rw [change_complete]
    split
    · exact s.requested_fulfill o
    · rfl
  · -- the slot of the order stops waiting as the order goes; for any other slot nothing goes
    rw [change_complete, List.countP_erase, h.awaited hslot]
    by_cases hawaits : v.awaits d order = true
    · have hleaves : order ∈ outstanding ∧ v.awaits d order = true := ⟨horder, hawaits⟩
      rw [if_pos (h.state_eq_inFlight horder hslot hawaits), if_pos hleaves, if_pos hawaits,
        if_neg (slot.state_fulfill_ne o)]
    · have hstays : ¬(order ∈ outstanding ∧ v.awaits d order = true) := fun hand => hawaits hand.2
      rw [if_neg hstays, if_neg hawaits, Nat.sub_zero]
  · rw [change_complete, if_neg]
    intro hawaits
    rw [Slot.requested_of_state_eq_inFlight (h.state_eq_inFlight horder hslot hawaits)] at hreq
    cases hreq

end View

/-! ### Viewers -/

namespace Viewer

variable {loads : Nat} {v : Viewer}

theorem perform_of_ok {intent : ViewIntent} {view : View} (h : v.view.apply intent = .ok view) :
    v.perform intent = .ok ({ v with
      view := view.reconcile.1, outstanding := v.outstanding ++ view.reconcile.2 },
      view.reconcile.2) := by
  rw [perform, h]
  rfl

theorem perform_of_error {intent : ViewIntent} {err : Error}
    (h : v.view.apply intent = .error err) : v.perform intent = .error err := by
  rw [perform, h]
  rfl

/-- A viewer that is told an intent: its view changes, and a pass follows unless it was refused. -/
theorem tracked_told {intent : ViewIntent}
    (h : (v.view.attempt intent).Tracked loads v.outstanding) :
    (v.told intent).view.Tracked loads (v.told intent).outstanding := by
  rcases happly : v.view.apply intent with err | view
  · simp only [told, perform_of_error happly]
    simpa only [View.attempt, happly] using h
  · simp only [told, perform_of_ok happly]
    rw [View.attempt_of_ok happly] at h
    exact h.reconcile

theorem finished_fst (v : Viewer) (order : Fetch) (o : Outcome) :
    (v.finished order o).1 =
      told { v with outstanding := v.outstanding.erase order } (.fetched (order.complete o)) := by
  unfold finished told
  split <;> next h => simp only [h]

/-- **Every event keeps a viewer tracked.** -/
theorem tracked_react (h : v.view.Tracked loads v.outstanding) (event : ViewerEvent)
    (hloads : loads + [event].countP ViewerEvent.isLoad < UInt64.size) :
    (v.react event).view.Tracked (loads + [event].countP ViewerEvent.isLoad)
      (v.react event).outstanding := by
  cases event with
  | toggleCompilation => exact tracked_told (h.toggle rfl rfl fun d s => rfl)
  | toggleTest n => exact tracked_told (h.toggle rfl rfl fun d s => rfl)
  | reload result ttl now =>
    cases result with
    | error err => exact h
    | ok s => exact (h.load hloads s).reconcile
  | finish i o =>
    rcases hi : v.outstanding[i]? with _ | order
    · simp only [react, hi]
      exact h
    · simp only [react, hi, finished_fst]
      exact tracked_told (h.finish (List.mem_of_getElem? hi) o)

theorem tracked_run (id : UInt64) (events : List ViewerEvent)
    (hloads : events.countP ViewerEvent.isLoad < UInt64.size) :
    (run { submissionId := id } events).view.Tracked (events.countP ViewerEvent.isLoad)
      (run { submissionId := id } events).outstanding := by
  induction events using List.reverseRecOn with
  | nil => exact View.tracked_blank
  | append_singleton events event ih =>
    rw [List.countP_append] at hloads ⊢
    rw [run_concat]
    exact tracked_react (ih (by omega)) event hloads

/-- **No download is lost, and none is made twice.** Whatever happens to a viewer, a slot is in
flight exactly if one outstanding order is for it, and no order is for a slot that is not. -/
theorem inFlight_iff_run (id : UInt64) (events : List ViewerEvent)
    (hloads : events.countP ViewerEvent.isLoad < UInt64.size) {d : Address} {slot : Slot}
    (hslot : (run { submissionId := id } events).view.slot? d = some slot) :
    (slot.state = .inFlight ↔ (run { submissionId := id } events).awaited d = 1) ∧
      (slot.state ≠ .inFlight → (run { submissionId := id } events).awaited d = 0) := by
  have hawaited := (tracked_run id events hloads).awaited hslot
  rw [awaited, hawaited]
  by_cases hstate : slot.state = .inFlight
  · rw [if_pos hstate]
    exact ⟨iff_of_true hstate rfl, fun hnot => absurd hstate hnot⟩
  · rw [if_neg hstate]
    exact ⟨iff_of_false hstate Nat.zero_ne_one, fun _ => rfl⟩

/-- A run in which the submission is loaded again while the artifacts of its test are on the way,
one of which comes back afterwards. -/
def reloadedMeanwhile : List ViewerEvent :=
  [.reload (.ok (.ofOneTest 7)) 0 0, .toggleTest 1, .toggleTest 2, .finish 1 (.error "gone"),
    .reload (.error (.invalidTest 1 0)) 0 0, .reload (.ok (.ofOneTest 7)) 0 0, .toggleTest 1,
    .finish 0 (.ok (.ofText "1 2"))]

theorem inFlight_reloadedMeanwhile :
    (run { submissionId := 7 } reloadedMeanwhile).outstanding.length = 8 ∧
      (run { submissionId := 7 } reloadedMeanwhile).awaited (.test 1 .input) = 1 := by
  have hslot : (run { submissionId := 7 } reloadedMeanwhile).view.slot? (.test 1 .input) =
      some { requested := true } := rfl
  exact ⟨by decide, (inFlight_iff_run 7 reloadedMeanwhile (by decide) hslot).1.mp rfl⟩

end Viewer

end JudgeDesk
