import JudgeDesk.Desk.Basic
import JudgeDesk.Proofs.Sessions.Lookup

/-!
# Sittings

A sitting is the desk together with the judge that it works with and a record of the calls that it
made. Nothing is assumed of the judge: it answers each call as it likes, and its answers may depend
on all that was asked before.

* `Judge`, `Sitting`, `Sitting.serve` — one request after the other;
* `Editor.attempt`, `Sitting.serve_edit` — what is done in an editor makes no call;
* `Problem.saveCall`, `Sitting.serve_save` — a save makes one call, which the id of the problem
  decides;
* `Sitting.serve_openEditor` — an editor that is opened.
-/

namespace JudgeDesk

variable {σ : Type}

/-- **A judge**: its answer to a call, and its state afterwards. -/
abbrev Judge (σ : Type) := σ → (c : Call) → σ × c.Answer

/-- A judge that keeps a record of the calls. -/
def Judge.recorded (judge : Judge σ) : Judge (σ × List Call) := fun (s, calls) c =>
  (((judge s c).1, calls ++ [c]), (judge s c).2)

/-- **A sitting.** -/
structure Sitting (σ : Type) where
  /-- the desk -/
  desk : Desk
  /-- the state of the judge -/
  judge : σ
  /-- the calls that were made, in the order in which they were made -/
  calls : List Call := []

/-! ### Exchanges -/

namespace Exchange

variable {α β : Type}

theorem run_bind (judge : Judge σ) (s : σ) (x : Exchange α) (f : α → Exchange β) :
    (x >>= f).run judge s = (f (x.run judge s).2).run judge (x.run judge s).1 := by
  induction x generalizing s with
  | done a => rfl
  | ask c next ih => exact ih _ _

theorem run_pure (judge : Judge σ) (s : σ) (x : α) :
    (pure x : Exchange α).run judge s = (s, x) := rfl

end Exchange

/-! ### Editors -/

/-- **The call of a save**: a problem with an id is modified, one without is created. -/
def Problem.saveCall (p : Problem) : Call :=
  match p.id with
  | some id => .modifyProblem id p
  | none => .createProblem p

/-- **An editor after an intent as it was sent**; what is refused leaves it as it was. -/
def Editor.attempt (e : Editor) (request : EditorRequest) : Editor :=
  match request.resolve with
  | .error _ => e
  | .ok intent =>
    match e.apply intent with
    | .ok e' => e'
    | .error _ => e

namespace Desk

/-- Sending a problem to the judge makes one call. -/
theorem run_send_recorded (judge : Judge σ) (s : σ) (calls : List Call) (p : Problem) :
    (send p).run judge.recorded (s, calls) =
      ((((send p).run judge s).1, calls ++ [p.saveCall]), ((send p).run judge s).2) := by
  unfold send Problem.saveCall
  rcases p.id with _ | id <;> rfl

/-- A problem that has an id is not given another one. -/
theorem run_send_of_some (judge : Judge σ) (s : σ) {p : Problem} {id : UInt64}
    (h : p.id = some id) :
    ((send p).run judge s).2 = (judge s (.modifyProblem id p)).2.map fun _ => none := by
  simp only [send, h, Exchange.run_bind, Exchange.run_pure]
  rfl

end Desk

namespace Sitting

variable {judge : Judge σ} {t : Sitting σ} {id : SessionId} {e : Editor}

/-- **A sitting after a request.** -/
def serve (judge : Judge σ) (t : Sitting σ) (m : Moment) (r : Request) : Sitting σ :=
  let ((s, calls), served) := (t.desk.serve m r).run judge.recorded (t.judge, t.calls)
  { desk := served.desk, judge := s, calls }

/-- The editor of an id, if one is open. -/
def editor? (t : Sitting σ) (id : SessionId) : Option Editor := t.desk.editors.find? id

/-- **Opening an editor on a problem**: it is called for, and the editor has what came of it. -/
theorem serve_openEditor (judge : Judge σ) (t : Sitting σ) (m : Moment) (k : UInt64) :
    (t.serve judge m (.openEditor (some k))).calls = t.calls ++ [.getProblem k] ∧
      (t.serve judge m (.openEditor (some k))).editor? m.freshId =
        some ((Editor.loading k).loaded (judge t.judge (.getProblem k)).2 t.desk.ttl m.now) :=
  ⟨rfl, Sessions.find?_insert_self _ _ _ _⟩

/-- An open editor is used, and then it is up to what is done with it. -/
theorem withEditor_eq (h : t.editor? id = some e) (m : Moment) :
    ∃ editors : Sessions Editor, (∀ f, t.desk.withEditor m id f = f { t.desk with editors } e) ∧
      editors.find? id = some e := by
  obtain ⟨editors, hget, hfind⟩ := Sessions.get_of_find? h m.uptime
  exact ⟨editors, fun f => by simp only [Desk.withEditor, hget], (hfind id).trans h⟩

/-- **Editing** makes no call, so that the judge does not hear of it. -/
theorem serve_edit (h : t.editor? id = some e) (judge : Judge σ) (m : Moment)
    (request : EditorRequest) :
    (t.serve judge m (.edit id request)).calls = t.calls ∧
      (t.serve judge m (.edit id request)).judge = t.judge ∧
      (t.serve judge m (.edit id request)).editor? id = some (e.attempt request) := by
  rcases hresolve : request.resolve with err | intent
  · simp only [serve, Desk.serve, Desk.edit, hresolve, Editor.attempt]
    exact ⟨rfl, rfl, h⟩
  · obtain ⟨editors, hwith, hfind⟩ := withEditor_eq h m
    simp only [serve, Desk.serve, Desk.edit, hresolve, hwith, Editor.attempt]
    rcases e.apply intent with err | e'
    · exact ⟨rfl, rfl, hfind⟩
    · exact ⟨rfl, rfl, Sessions.find?_set_self hfind e'⟩

/-- **Saving** makes one call, with the problem that the editor shows. -/
theorem serve_save (h : t.editor? id = some e) (hloaded : e.isLoaded = true) (judge : Judge σ)
    (m : Moment) :
    (t.serve judge m (.save id)).calls = t.calls ++ [e.problem.saveCall] ∧
      (t.serve judge m (.save id)).judge = ((Desk.send e.problem).run judge t.judge).1 ∧
      (t.serve judge m (.save id)).editor? id =
        some (e.saved ((Desk.send e.problem).run judge t.judge).2 t.desk.ttl m.now) := by
  obtain ⟨editors, hwith, hfind⟩ := withEditor_eq h m
  have hensure : e.ensureLoaded = .ok () := if_pos hloaded
  simp only [serve, Desk.serve, Desk.save, hwith, hensure, Exchange.run_bind, Exchange.run_pure,
    Desk.run_send_recorded, true_and]
  exact Sessions.find?_set_self hfind _

end Sitting

end JudgeDesk
