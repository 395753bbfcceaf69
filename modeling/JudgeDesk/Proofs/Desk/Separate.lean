import JudgeDesk.Proofs.Desk.Sitting

/-!
# Separate editors

Several operators work at the desk, each in an editor of their own, and the judge answers all of
them. No editor is touched by what is asked of another one: what it answers follows from what was
asked of it, and from the sweeps.

* `DeskEvent`, `Desk.hear` — what the desk hears of, and what it is afterwards;
* `Request.editor?`, `DeskEvent.concerns` — the editor that a request is for, and what an event may
  have to do with an editor;
* `Desk.Agree` — desks that are the same to one editor;
* `Desk.Agree.respond`, `Desk.agree_respond_of_ne` — desks that are the same to an editor serve its
  requests alike, and no other request makes a difference to it;
* `Desk.answersTo_filter` — every editor answers as if it were the only one.

A request that opens an editor is for the editor that it opens. Ids may come again; what is asked
of any of the editors that have had an id one after the other counts as asked of the same one.
-/

namespace JudgeDesk

variable {α β : Type}

/-! ### Events -/

/-- **What the desk hears of.** -/
inductive DeskEvent where
  /-- a request comes, and the judge has an answer to each call that it may take -/
  | request (m : Moment) (r : Request) (judge : (c : Call) → c.Answer)
  /-- a download ended -/
  | finished (download : Download) (outcome : Outcome)
  /-- idle sessions are closed -/
  | sweep (uptime : Nat)

/-- **The editor that a request is for**, if it is for one. -/
def Request.editor? (m : Moment) : Request → Option SessionId
  | .openEditor _ => some m.freshId
  | .showEditor id => some id
  | .edit id _ => some id
  | .save id => some id
  | .closeEditor id => some id
  | _ => none

/-- Whether an event can have to do with the editor of an id; a sweep can with any. -/
def DeskEvent.concerns (id : SessionId) : DeskEvent → Bool
  | .request m r _ => r.editor? m = some id
  | .finished _ _ => false
  | .sweep _ => true

/-- **The value of an exchange** with a judge whose answers are given. -/
def Exchange.answered (judge : (c : Call) → c.Answer) (x : Exchange α) : α :=
  (x.run (fun _ c => ((), judge c)) ()).2

theorem Exchange.answered_bind (judge : (c : Call) → c.Answer) (x : Exchange α)
    (f : α → Exchange β) : (x >>= f).answered judge = (f (x.answered judge)).answered judge := by
  rw [answered, run_bind]
  rfl

namespace Desk

/-- What comes of a request if the answers of the judge are given. -/
def respond (d : Desk) (m : Moment) (r : Request) (judge : (c : Call) → c.Answer) : Served :=
  (d.serve m r).answered judge

/-- **The desk after an event.** -/
def hear (d : Desk) : DeskEvent → Desk
  | .request m r judge => (d.respond m r judge).desk
  | .finished download outcome => (d.finish download outcome).1
  | .sweep uptime => (d.sweep uptime).1

/-- The answer to an event that is a request for the editor of an id. -/
def answerTo? (id : SessionId) (d : Desk) : DeskEvent → Option (Option (Except Error Answer))
  | .request m r judge => if r.editor? m = some id then some (d.respond m r judge).answer else none
  | _ => none

/-- **The answers** to all requests for the editor of an id, while the desk hears of some events. -/
def answersTo (id : SessionId) : Desk → List DeskEvent → List (Option (Except Error Answer))
  | _, [] => []
  | d, event :: rest => (d.answerTo? id event).toList ++ answersTo id (d.hear event) rest

variable {id id' : SessionId} {d d' d₀ : Desk} {m : Moment} {judge : (c : Call) → c.Answer}

/-! ### Agreement -/

/-- **Desks that are the same to an editor**: they work in the same way, and both have it open as it
is and since then, or not at all. -/
structure Agree (id : SessionId) (d d' : Desk) : Prop where
  /-- the settings are the same -/
  settings : d.settings = d'.settings
  /-- the editor is the same, and was used last at the same time -/
  held : d.editors.held? id = d'.editors.held? id

theorem Agree.refl (id : SessionId) (d : Desk) : Agree id d d := ⟨rfl, rfl⟩

theorem Agree.trans (h : Agree id d d') (h' : Agree id d' d₀) : Agree id d d₀ :=
  ⟨h.settings.trans h'.settings, h.held.trans h'.held⟩

/-- **Served alike**, as far as an editor is concerned: with the same answer, and with desks that
are the same to it. -/
structure Alike (id : SessionId) (s s' : Served) : Prop where
  /-- the answer is the same -/
  answer : s.answer = s'.answer
  /-- the desks are the same to the editor -/
  desk : Agree id s.desk s'.desk

theorem Agree.ttl_eq (h : Agree id d d') : d.ttl = d'.ttl := by rw [ttl, ttl, h.settings]

/-- A change of the open editors makes no difference that was not there. -/
theorem Agree.withEditors (h : Agree id d d') {editors editors' : Sessions Editor}
    (heditors : editors.held? id = editors'.held? id) :
    Agree id { d with editors } { d' with editors := editors' } :=
  ⟨h.settings, heditors⟩

theorem Agree.refuse (h : Agree id d d') (err : Error) :
    Alike id ((d.refuse err).answered judge) ((d'.refuse err).answered judge) := ⟨rfl, h⟩

theorem Agree.keepEditor (h : Agree id d d') (m : Moment) (e : Editor) :
    Alike id (d.keepEditor m e) (d'.keepEditor m e) := by
  refine ⟨rfl, h.withEditors ?_⟩
  rw [Sessions.held?_insert, Sessions.held?_insert, h.held]

theorem Agree.setEditor (h : Agree id d d') (m : Moment) (id' : SessionId) (e : Editor) :
    Alike id (d.setEditor m id' e) (d'.setEditor m id' e) := by
  refine ⟨rfl, h.withEditors ?_⟩
  rw [Sessions.set, Sessions.set, Sessions.held?_update, Sessions.held?_update, h.held]

/-- **What is done with an editor is done alike** on desks that are the same to it. -/
theorem Agree.withEditor (h : Agree id d d') {f : Desk → Editor → Exchange Served}
    (hf : ∀ d d' e, Agree id d d' →
      Alike id ((f d e).answered judge) ((f d' e).answered judge)) :
    Alike id ((d.withEditor m id f).answered judge) ((d'.withEditor m id f).answered judge) := by
  simp only [Desk.withEditor, Sessions.get, Sessions.find?_eq_map_held?, h.held]
  rcases d'.editors.held? id with _ | entry
  · exact h.refuse _
  · refine hf _ _ _ (h.withEditors ?_)
    rw [Sessions.held?_update, Sessions.held?_update, h.held]

/-- **Desks that are the same to an editor serve its requests alike.** -/
theorem Agree.respond (h : Agree id d d') {r : Request} (hr : r.editor? m = some id) :
    Alike id (d.respond m r judge) (d'.respond m r judge) := by
  cases r with
  | openEditor problem =>
    cases problem with
    | none => exact h.keepEditor m _
    | some k =>
      simp only [Desk.respond, serve, openEditor, Exchange.answered_bind, h.ttl_eq]
      exact h.keepEditor m _
  | showEditor id' =>
    obtain rfl : id' = id := Option.some.inj hr
    simp only [Desk.respond, serve]
    exact h.withEditor fun d d' e h => ⟨rfl, h⟩
  | edit id' request =>
    obtain rfl : id' = id := Option.some.inj hr
    simp only [Desk.respond, serve, edit]
    rcases request.resolve with err | intent
    · exact h.refuse err
    · refine h.withEditor fun d d' e h => ?_
      rcases e.apply intent with err | e'
      · exact h.refuse err
      · exact h.setEditor m id' e'
  | save id' =>
    obtain rfl : id' = id := Option.some.inj hr
    simp only [Desk.respond, serve, save]
    refine h.withEditor fun d d' e h => ?_
    rcases e.ensureLoaded with err | _
    · exact h.refuse err
    · simp only [Exchange.answered_bind, h.ttl_eq]
      exact h.setEditor m id' _
  | closeEditor id' =>
    obtain rfl : id' = id := Option.some.inj hr
    simp only [Desk.respond, serve, closeEditor, Sessions.remove, Sessions.find?_eq_map_held?,
      h.held]
    rcases d'.editors.held? id' with _ | entry
    · exact h.refuse _
    · refine ⟨rfl, h.withEditors ?_⟩
      rw [Sessions.held?_keepOnly_ne, Sessions.held?_keepOnly_ne, if_pos rfl, if_pos rfl]
  | _ => cases hr

/-! ### Other editors -/

/-- What is done with another editor makes no difference, if none is made after it was found. -/
theorem agree_withEditor_of_ne (hid : id' ≠ id) {f : Desk → Editor → Exchange Served}
    (hf : ∀ d' e, Agree id d' d → Agree id ((f d' e).answered judge).desk d) :
    Agree id ((d.withEditor m id' f).answered judge).desk d := by
  simp only [withEditor, Sessions.get]
  rcases d.editors.find? id' with _ | e
  · exact Agree.refl id d
  · refine hf _ e ⟨rfl, ?_⟩
    rw [Sessions.held?_update]
    simp only [if_neg hid.symm, Option.map_id']

/-- What is done with a viewer makes no difference, if none is made after it was found. -/
theorem agree_withViewer {f : Desk → Viewer → Exchange Served}
    (hf : ∀ d' v, Agree id d' d → Agree id ((f d' v).answered judge).desk d) :
    Agree id ((d.withViewer m id' f).answered judge).desk d := by
  rw [withViewer]
  rcases d.viewers.get id' m.uptime with err | ⟨v, viewers⟩
  · exact Agree.refl id d
  · exact hf _ v ⟨rfl, rfl⟩

/-- Another editor that is replaced makes no difference. -/
theorem agree_setEditor_of_ne (hid : id' ≠ id) (m : Moment) (e : Editor) :
    Agree id (d.setEditor m id' e).desk d := by
  refine ⟨rfl, (Sessions.held?_update _ _ _ _).trans ?_⟩
  simp only [if_neg hid.symm, Option.map_id']

theorem agree_ifInRange (p : Paging) {f : Exchange Served}
    (hf : Agree id (f.answered judge).desk d) :
    Agree id ((d.ifInRange p f).answered judge).desk d := by
  rw [ifInRange]
  split
  · exact hf
  · exact Agree.refl id d

/-- **No request for another editor, or for something else, makes a difference to an editor.** -/
theorem agree_respond_of_ne {r : Request} (hr : r.editor? m ≠ some id) :
    Agree id (d.respond m r judge).desk d := by
  cases r with
  | openEditor problem =>
    have hid : m.freshId ≠ id := fun h => hr (congrArg some h)
    have hkeep (e : Editor) : Agree id (d.keepEditor m e).desk d :=
      ⟨rfl, (Sessions.held?_insert _ _ _ _ _).trans (if_neg hid)⟩
    cases problem with
    | none => exact hkeep _
    | some k => exact hkeep _
  | showEditor id' =>
    have hid : id' ≠ id := fun h => hr (congrArg some h)
    simp only [respond, serve]
    exact agree_withEditor_of_ne hid fun d' e h => h
  | edit id' request =>
    have hid : id' ≠ id := fun h => hr (congrArg some h)
    simp only [respond, serve, edit]
    rcases request.resolve with err | intent
    · exact Agree.refl id d
    · refine agree_withEditor_of_ne hid fun d' e h => ?_
      rcases e.apply intent with err | e'
      · exact h
      · exact (agree_setEditor_of_ne hid m e').trans h
  | save id' =>
    have hid : id' ≠ id := fun h => hr (congrArg some h)
    simp only [respond, serve, save]
    refine agree_withEditor_of_ne hid fun d' e h => ?_
    rcases e.ensureLoaded with err | _
    · exact h
    · simp only [Exchange.answered_bind]
      exact (agree_setEditor_of_ne hid m _).trans h
  | closeEditor id' =>
    have hid : id' ≠ id := fun h => hr (congrArg some h)
    simp only [respond, serve, closeEditor, Sessions.remove]
    rcases d.editors.find? id' with _ | e
    · exact Agree.refl id d
    · exact ⟨rfl, (Sessions.held?_keepOnly_ne _ _ _).trans (if_neg hid)⟩
  | listProblems p => exact agree_ifInRange p (Agree.refl id d)
  | listSubmissions f => exact agree_ifInRange f.paging (Agree.refl id d)
  | submit form =>
    simp only [respond, serve]
    rcases form.solution with err | solution
    · exact Agree.refl id d
    · exact Agree.refl id d
  | showViewer id' =>
    simp only [respond, serve]
    exact agree_withViewer fun d' v h => h
  | view id' request =>
    simp only [respond, serve, view]
    refine agree_withViewer fun d' v h => ?_
    rcases request.intent? with _ | intent
    · exact ⟨h.settings, h.held⟩
    · dsimp only
      rcases v.perform intent with err | ⟨v', orders⟩
      · exact h
      · exact ⟨h.settings, h.held⟩
  | openViewer submission =>
    simp only [respond, serve, openViewer]
    split
    · exact ⟨rfl, rfl⟩
    · exact Agree.refl id d
  | closeViewer id' =>
    simp only [respond, serve, closeViewer]
    rcases d.viewers.remove id' with err | ⟨v, viewers⟩
    · exact Agree.refl id d
    · exact ⟨rfl, rfl⟩
  | _ => exact ⟨rfl, rfl⟩

/-! ### Runs -/

/-- **A step that concerns an editor**: desks that were the same to it stay so, and the answer is
the same. -/
theorem Agree.hear (h : Agree id d d') {event : DeskEvent} (hevent : event.concerns id = true) :
    d.answerTo? id event = d'.answerTo? id event ∧ Agree id (d.hear event) (d'.hear event) := by
  cases event with
  | request m r judge =>
    have hr : r.editor? m = some id := of_decide_eq_true hevent
    have halike : Alike id (d.respond m r judge) (d'.respond m r judge) := h.respond hr
    refine ⟨?_, halike.desk⟩
    rw [answerTo?, answerTo?, if_pos hr, if_pos hr, halike.answer]
  | finished download outcome => cases hevent
  | sweep uptime =>
    have hswept : (d.editors.sweep uptime d.settings.maxIdle).1.held? id =
        (d'.editors.sweep uptime d'.settings.maxIdle).1.held? id := by
      rw [Sessions.sweep, Sessions.sweep, Sessions.held?_keepOnly, Sessions.held?_keepOnly,
        h.settings, h.held]
    exact ⟨rfl, h.settings, hswept⟩

/-- **A step that does not concern an editor** makes no difference to it, and is no answer of it. -/
theorem agree_hear_of_not_concerns (d : Desk) {event : DeskEvent}
    (hevent : event.concerns id = false) :
    d.answerTo? id event = none ∧ Agree id (d.hear event) d := by
  cases event with
  | request m r judge =>
    have hr : r.editor? m ≠ some id := of_decide_eq_false hevent
    exact ⟨if_neg hr, agree_respond_of_ne hr⟩
  | finished download outcome =>
    refine ⟨rfl, ?_⟩
    simp only [hear, finish]
    split <;> exact ⟨rfl, rfl⟩
  | sweep uptime => cases hevent

/-- Desks that are the same to an editor give the same answers for it, if what does not concern it
is left out for one of them. -/
theorem Agree.answersTo_eq (h : Agree id d d') (events : List DeskEvent) :
    d.answersTo id (events.filter (·.concerns id)) = d'.answersTo id events := by
  induction events generalizing d d' with
  | nil => rfl
  | cons event rest ih =>
    rcases hevent : event.concerns id with _ | _
    · -- only the second desk hears of it, and it stays the same to the editor
      obtain ⟨hnone, hsame⟩ := agree_hear_of_not_concerns d' hevent
      rw [List.filter_cons_of_neg (by simp [hevent]), answersTo, hnone]
      exact ih ⟨h.settings.trans hsame.settings.symm, h.held.trans hsame.held.symm⟩
    · -- both desks hear of it
      obtain ⟨hanswer, hnext⟩ := h.hear hevent
      rw [List.filter_cons_of_pos hevent, answersTo, answersTo, hanswer, ih hnext]

/-- **Every editor answers as if it were the only one.** Whatever the desk hears of, the answers to
the requests for an editor, errors among them, are those that are given if the desk hears of these
requests and of the sweeps only. -/
theorem answersTo_filter (d : Desk) (id : SessionId) (events : List DeskEvent) :
    d.answersTo id (events.filter (·.concerns id)) = d.answersTo id events :=
  (Agree.refl id d).answersTo_eq events

end Desk

end JudgeDesk
