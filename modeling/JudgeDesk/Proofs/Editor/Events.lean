import Mathlib.Data.List.Induction
import JudgeDesk.Editor.Basic
import JudgeDesk.Proofs.Problem.Run

/-!
# What happens in an editor

A problem is loaded into an editor, it is edited, and it is saved; each of these may fail, and each
may be tried at any time. What the editor works on depends on what went well alone: whatever failed
or was refused can be struck from the record. What it reports depends on the last load or save
alone.

* `EditorDeed`, `EditorEvent`, `Editor.run` — what happens in an editor, one after the other;
* `Editor.effective` — the events that are left when those without effect are struck out;
* `Editor.work_run_effective` — they lead to the same problem;
* `Editor.isLoaded_run` — when an editor has a problem to work on;
* `Editor.notification_run` — what it reports;
* `Editor.run_effective` — all of this for an editor from its opening on.

Which events have an effect is decided at each of them, in the editor as it is then: an intent may
be refused at one time and carried out at another.
-/

namespace JudgeDesk

/-- **What happens in an editor.** -/
inductive EditorDeed where
  /-- the problem comes from the judge, or it does not -/
  | load (result : Except Error Problem)
  /-- the operator does something -/
  | edit (intent : ProblemIntent)
  /-- the judge takes the problem, perhaps with a new id, or it does not -/
  | save (result : Except Error (Option UInt64))

/-- **What happens in an editor at some time.** -/
structure EditorEvent where
  /-- what happens -/
  what : EditorDeed
  /-- for how long it is reported -/
  ttl : Duration
  /-- when it happens -/
  now : Timestamp

/-! ### Refusals -/

namespace TestGroup

variable {groups : List TestGroup} {index : Option Nat} {action : GroupAction} {err : Error}

theorem isIntentError_of_target (h : target groups index action = .error err) :
    err.isIntentError = true := by
  unfold target at h
  split at h
  · cases h
  · split at h
    · cases h
    · rw [← Except.error.inj h]
      rfl
  · rw [← Except.error.inj h]
    rfl

theorem isIntentError_of_guard {i : Nat} (h : guard groups i action = .error err) :
    err.isIntentError = true := by
  unfold guard at h
  split at h
  · split at h
    · cases h
    · rw [← Except.error.inj h]
      rfl
  · cases h

/-- **Test groups refuse an action for what it asks** alone. -/
theorem isIntentError_of_apply (h : apply groups index action = .error err) :
    err.isIntentError = true := by
  unfold apply at h
  rcases htarget : target groups index action with err' | i
  · rw [htarget] at h
    obtain rfl : err' = err := Except.error.inj h
    exact isIntentError_of_target htarget
  · rw [htarget] at h
    rcases hguard : guard groups i action with err' | _
    · simp only [bind, Except.bind, hguard] at h
      obtain rfl : err' = err := Except.error.inj h
      exact isIntentError_of_guard hguard
    · simp only [bind, Except.bind, hguard] at h
      cases h

end TestGroup

/-- **A problem refuses an intent for what it asks** alone. -/
theorem Problem.isIntentError_of_apply {p : Problem} {intent : ProblemIntent} {err : Error}
    (h : p.apply intent = .error err) : err.isIntentError = true := by
  cases intent with
  | replace problem => cases h
  | field field value => cases h
  | group index action =>
    unfold apply at h
    rcases hgroups : TestGroup.apply p.groups index action with err' | groups
    · simp only [hgroups, bind, Except.bind] at h
      obtain rfl : err' = err := Except.error.inj h
      exact TestGroup.isIntentError_of_apply hgroups
    · simp only [hgroups, bind, Except.bind] at h
      cases h

/-! ### Events -/

namespace EditorDeed

/-- Whether a problem comes from the judge. -/
def isArrival : EditorDeed → Bool
  | .load (.ok _) => true
  | _ => false

/-- Whether it is a load or a save, be it that it failed. -/
def isTransfer : EditorDeed → Bool
  | .edit _ => false
  | _ => true

/-- **What is reported**: whether it went well, and in which words. A load that went well is not
reported. -/
def report? : EditorDeed → Option (Bool × String)
  | .load (.ok _) => none
  | .load (.error err) => some (false, err.displayMessage)
  | .edit _ => none
  | .save (.ok _) => some (true, Editor.savedMessage)
  | .save (.error err) => some (false, err.displayMessage)

end EditorDeed

/-- The notification of an event, if it is reported. -/
def EditorEvent.notification? (event : EditorEvent) : Option Notification :=
  event.what.report?.map fun (ok, message) =>
    { ok, message, expiresAt := event.now + event.ttl }

/-- **The last load or save** of several events. -/
def EditorEvent.lastTransfer? (events : List EditorEvent) : Option EditorEvent :=
  (events.filter (·.what.isTransfer)).getLast?

namespace Editor

/-- An editor that was just opened: for a new problem, or on one of the judge's. -/
def opened : Option UInt64 → Editor
  | none => blank
  | some id => loading id

/-- **An editor after an event**; an intent that is refused leaves it as it is. -/
def take (e : Editor) (event : EditorEvent) : Editor :=
  match event.what with
  | .load result => e.loaded result event.ttl event.now
  | .edit intent =>
    match e.apply intent with
    | .ok e' => e'
    | .error _ => e
  | .save result => e.saved result event.ttl event.now

/-- **An editor after several events.** -/
def run (e : Editor) (events : List EditorEvent) : Editor := events.foldl take e

/-- **Whether something has an effect** on what an editor works on: a load that goes well, an intent
that is not refused, and a save that brings a new id. -/
def heeds (e : Editor) : EditorDeed → Bool
  | .load (.ok _) => true
  | .edit intent => (e.apply intent).isOk
  | .save (.ok (some _)) => true
  | _ => false

/-- **The events that have an effect**, each at its turn. -/
def effective (e : Editor) : List EditorEvent → List EditorEvent
  | [] => []
  | event :: rest =>
    if e.heeds event.what then event :: (e.take event).effective rest
    else (e.take event).effective rest

variable {e e' : Editor} {event : EditorEvent}

@[simp] theorem run_concat (e : Editor) (events : List EditorEvent) (event : EditorEvent) :
    e.run (events ++ [event]) = (e.run events).take event := by
  simp only [run, List.foldl_append, List.foldl_cons, List.foldl_nil]

/-! ### Intents -/

/-- **Editing** takes a problem to work on; then it is up to the problem. -/
theorem apply_eq (e : Editor) (intent : ProblemIntent) :
    e.apply intent =
      if e.isLoaded then (e.problem.apply intent).map fun problem => { e with problem }
      else .error (.invalidInput .notLoaded) := by
  unfold apply ensureLoaded
  rcases e.isLoaded with _ | _
  · rfl
  · rcases e.problem.apply intent with err | problem
    · rfl
    · rfl

/-- **An intent is refused for want of a problem exactly if there is none.** -/
theorem apply_eq_notLoaded_iff (intent : ProblemIntent) :
    e.apply intent = .error (.invalidInput .notLoaded) ↔ e.isLoaded = false := by
  rw [apply_eq]
  rcases e.isLoaded with _ | _
  · simp
  · refine iff_of_false (fun h => ?_) Bool.noConfusion
    rw [if_pos rfl] at h
    rcases hproblem : e.problem.apply intent with err | problem
    · rw [hproblem] at h
      obtain rfl : err = .invalidInput .notLoaded := Except.error.inj h
      exact Bool.noConfusion (Problem.isIntentError_of_apply hproblem)
    · rw [hproblem] at h
      cases h

/-! ### What an editor works on -/

/-- **What an editor works on**, and whether it does. -/
def work (e : Editor) : Problem × Bool := (e.problem, e.isLoaded)

/-- **What an event makes of the work.** -/
theorem work_take (e : Editor) (event : EditorEvent) :
    (e.take event).work =
      match event.what with
      | .load (.ok p) => ({ p with groups := TestGroup.normalize p.groups }, true)
      | .edit intent =>
        if e.isLoaded then (e.problem.step (.intent intent), true) else e.work
      | .save (.ok (some id)) => (e.problem.withId id, e.isLoaded)
      | _ => e.work := by
  obtain ⟨what, ttl, now⟩ := event
  cases what with
  | load result =>
    rcases result with err | p
    · rfl
    · rfl
  | edit intent =>
    simp only [take, apply_eq]
    rcases hloaded : e.isLoaded with _ | _
    · rfl
    · simp only [Problem.step]
      rcases e.problem.apply intent with err | problem
      · exact Prod.ext rfl hloaded
      · rfl
  | save result =>
    rcases result with err | id
    · rfl
    · rcases id with _ | id
      · rfl
      · rfl

/-- What an event makes of the work depends on the work alone. -/
theorem work_take_congr (h : e'.work = e.work) (event : EditorEvent) :
    (e'.take event).work = (e.take event).work := by
  obtain ⟨hproblem, hloaded⟩ := Prod.mk.inj h
  rw [work_take, work_take, h, hproblem, hloaded]

/-- What has no effect leaves the work as it is. -/
theorem work_take_of_not_heeds (h : e.heeds event.what = false) :
    (e.take event).work = e.work := by
  obtain ⟨what, ttl, now⟩ := event
  rw [work_take]
  cases what with
  | load result =>
    rcases result with err | p
    · rfl
    · cases h
  | edit intent =>
    simp only [heeds, apply_eq] at h
    rcases hloaded : e.isLoaded with _ | _
    · rfl
    · -- the problem refused the intent
      rw [hloaded, if_pos rfl] at h
      simp only [Problem.step]
      rcases hproblem : e.problem.apply intent with err | problem
      · exact Prod.ext rfl hloaded.symm
      · rw [hproblem] at h
        cases h
  | save result =>
    rcases result with err | id
    · rfl
    · rcases id with _ | id
      · rfl
      · cases h

/-- **Without the events that have no effect the work is the same.** -/
theorem work_run_effective (events : List EditorEvent) (h : e'.work = e.work) :
    (e'.run (e.effective events)).work = (e.run events).work := by
  induction events generalizing e e' with
  | nil => exact h
  | cons event rest ih =>
    rcases hheeds : e.heeds event.what with _ | _
    · rw [effective, if_neg (by simp [hheeds])]
      exact ih (h.trans (work_take_of_not_heeds hheeds).symm)
    · rw [effective, if_pos hheeds]
      exact ih (work_take_congr h event)

/-! ### When there is a problem -/

theorem isLoaded_take (e : Editor) (event : EditorEvent) :
    (e.take event).isLoaded = (e.isLoaded || event.what.isArrival) := by
  have hwork : (e.take event).isLoaded = (e.take event).work.2 := rfl
  obtain ⟨what, ttl, now⟩ := event
  rw [hwork, work_take]
  cases what with
  | load result =>
    rcases result with err | p
    · exact (Bool.or_false _).symm
    · exact (Bool.or_true _).symm
  | edit intent =>
    dsimp only [EditorDeed.isArrival]
    rw [Bool.or_false]
    split
    · next hloaded => exact hloaded.symm
    · rfl
  | save result =>
    rcases result with err | id
    · exact (Bool.or_false _).symm
    · rcases id with _ | id
      · exact (Bool.or_false _).symm
      · exact (Bool.or_false _).symm

/-- **An editor has a problem once one came.** -/
theorem isLoaded_run (e : Editor) (events : List EditorEvent) :
    (e.run events).isLoaded = (e.isLoaded || events.any (·.what.isArrival)) := by
  induction events generalizing e with
  | nil => simp [run]
  | cons event rest ih =>
    rw [List.any_cons, ← Bool.or_assoc, ← isLoaded_take]
    exact ih (e.take event)

/-! ### What is reported -/

/-- A load or a save is reported in place of what was, and an intent is not. -/
theorem notification_take (e : Editor) (event : EditorEvent) :
    (e.take event).notification =
      if event.what.isTransfer then event.notification? else e.notification := by
  obtain ⟨what, ttl, now⟩ := event
  cases what with
  | load result =>
    rcases result with err | p
    · rfl
    · rfl
  | edit intent =>
    simp only [take, apply_eq]
    rcases hloaded : e.isLoaded with _ | _
    · rfl
    · rcases e.problem.apply intent with err | problem
      · rfl
      · rfl
  | save result =>
    rcases result with err | id
    · rfl
    · rfl

/-- **An editor reports the last load or save**, and what it did before there was one. -/
theorem notification_run (e : Editor) (events : List EditorEvent) :
    (e.run events).notification =
      match EditorEvent.lastTransfer? events with
      | some event => event.notification?
      | none => e.notification := by
  induction events using List.reverseRecOn with
  | nil => rfl
  | append_singleton events event ih =>
    rw [run_concat, notification_take, ih]
    by_cases h : event.what.isTransfer = true
    · simp [EditorEvent.lastTransfer?, h]
    · simp [EditorEvent.lastTransfer?, h]

/-- **An editor is a function of what went well.** From its opening on, striking out every load that
failed, every intent that was refused, every save that failed and every save without a new id leaves
the problem and whether it was loaded the same. An intent is refused for want of a problem exactly
if the editor was opened on one of the judge's and it did not come yet. A notification is shown
exactly if the last load or save is reported and its time has not run out. -/
theorem run_effective (source : Option UInt64) (events : List EditorEvent) :
    (((opened source).run ((opened source).effective events)).problem =
        ((opened source).run events).problem ∧
      ((opened source).run ((opened source).effective events)).isLoaded =
        ((opened source).run events).isLoaded) ∧
    (∀ intent, ((opened source).run events).apply intent = .error (.invalidInput .notLoaded) ↔
      source ≠ none ∧ ∀ event ∈ events, event.what.isArrival = false) ∧
    ∀ time notification,
      (((opened source).run events).snapshot time).notification = some notification ↔
        ∃ event, EditorEvent.lastTransfer? events = some event ∧
          event.what.report? = some (notification.ok, notification.message) ∧
          notification.expiresAt = event.now + event.ttl ∧ time < event.now + event.ttl := by
  refine ⟨Prod.mk.inj (work_run_effective events rfl), fun intent => ?_, ?_⟩
  · rw [apply_eq_notLoaded_iff, isLoaded_run, Bool.or_eq_false_iff, List.any_eq_false]
    refine and_congr ?_ (by simp)
    rcases source with _ | id
    · simp [opened, blank]
    · simp [opened, loading]
  · intro time notification
    have hbefore : (opened source).notification = none := by
      rcases source with _ | id
      · rfl
      · rfl
    rw [snapshot, Option.filter_eq_some_iff, notification_run, hbefore]
    rcases EditorEvent.lastTransfer? events with _ | event
    · simp
    · simp only [EditorEvent.notification?, Option.map_eq_some_iff, Notification.isActive,
        decide_eq_true_eq]
      constructor
      · rintro ⟨⟨⟨ok, message⟩, hreport, rfl⟩, hactive⟩
        exact ⟨event, rfl, hreport, rfl, hactive⟩
      · rintro ⟨event', hevent, hreport, hexpires, hactive⟩
        obtain rfl : event = event' := Option.some.inj hevent
        rw [← hexpires] at hactive ⊢
        exact ⟨⟨_, hreport, rfl⟩, hactive⟩

end Editor

end JudgeDesk
