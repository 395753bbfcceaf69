import JudgeDesk.Proofs.Desk.SaveTarget

/-!
# New problems

An editor is opened for a new problem, things are done in it, and now and then it is saved. The
problem is created at the first save that goes well, which is the one that brings an id; all saves
before it try to create it as well, and all saves after it modify the problem of that id.

* `Dealing`, `Judge.minuted` — the calls that were made, with what came of them;
* `Sitting.exists_dealing_of_save` — a save is one dealing, and that decides what becomes of the
  edited problem;
* `Drafts.serve`, `Drafts.attend` — the id of the edited problem is the one that was assigned first;
* `Sitting.created_once` — what each save calls for, and what it leaves.
-/

namespace JudgeDesk

variable {σ : Type}

/-! ### Minutes -/

/-- **A dealing** with the judge: a call, and what came of it. -/
abbrev Dealing := (c : Call) × c.Answer

namespace Dealing

/-- The id that a new problem was given, if the call was for one and that went well. -/
def assigned? : Dealing → Option UInt64
  | ⟨.createProblem _, .ok created⟩ => created.id
  | _ => none

/-- **Whether a save has failed**, of which this is the dealing: there is an error, or a new problem
came back without an id. -/
def failed : Dealing → Bool
  | ⟨.createProblem _, .ok created⟩ => created.id.isNone
  | ⟨_, .ok _⟩ => false
  | ⟨_, .error _⟩ => true

/-- What comes of a save, of which this is the dealing. -/
def outcome : Dealing → Except Error (Option UInt64)
  | ⟨.createProblem _, answer⟩ => answer.bind fun created =>
    match created.id with
    | some id => .ok (some id)
    | none => .error (.fetchFailed .unassignedId)
  | ⟨_, answer⟩ => answer.map fun _ => none

theorem outcome_created (p created : Problem) :
    outcome ⟨.createProblem p, .ok created⟩ =
      match created.id with
      | some id => .ok (some id)
      | none => .error (.fetchFailed .unassignedId) := rfl

/-- A save that has failed brings no id. -/
theorem assigned?_of_failed {dealing : Dealing} (h : dealing.failed = true) :
    dealing.assigned? = none := by
  obtain ⟨c, answer⟩ := dealing
  cases c with
  | createProblem p =>
    rcases answer with err | created
    · rfl
    · exact Option.isNone_iff_eq_none.mp h
  | _ => rfl

/-- Modifying a problem assigns no id. -/
theorem assigned?_of_modifies {dealing : Dealing} {k : UInt64} {p : Problem}
    (h : dealing.1 = .modifyProblem k p) : dealing.assigned? = none := by
  obtain ⟨c, answer⟩ := dealing
  obtain rfl : c = .modifyProblem k p := h
  rfl

end Dealing

/-- **The id that was assigned first.** -/
def assigned? (dealings : List Dealing) : Option UInt64 := dealings.findSome? Dealing.assigned?

theorem assigned?_concat (dealings : List Dealing) (dealing : Dealing) :
    assigned? (dealings ++ [dealing]) = (assigned? dealings).or dealing.assigned? := by
  rw [assigned?, List.findSome?_append, List.findSome?_singleton]
  rfl

/-- A judge that keeps the minutes of the dealings with it. -/
def Judge.minuted (judge : Judge σ) : Judge (σ × List Dealing) := fun (s, dealings) c =>
  (((judge s c).1, dealings ++ [⟨c, (judge s c).2⟩]), (judge s c).2)

/-- Sending a problem to the judge is one dealing. -/
theorem Desk.run_send_minuted (judge : Judge σ) (s : σ) (dealings : List Dealing) (p : Problem) :
    ∃ dealing : Dealing, dealing.1 = p.saveCall ∧
      ((send p).run judge.minuted (s, dealings)).1.2 = dealings ++ [dealing] ∧
      ((send p).run judge.minuted (s, dealings)).2 = dealing.outcome := by
  refine ⟨⟨p.saveCall, (judge s p.saveCall).2⟩, rfl, ?_⟩
  unfold send Problem.saveCall
  rcases p.id with _ | k
  · exact ⟨rfl, rfl⟩
  · exact ⟨rfl, rfl⟩

/-! ### The edited problem -/

/-- A problem after a dealing that it was saved by. -/
def Problem.adopt (p : Problem) (dealing : Dealing) : Problem :=
  match dealing.assigned? with
  | some k => p.withId k
  | none => p

/-- **An id that is there stays**, as the judge is asked to modify the problem then. -/
theorem Problem.id_adopt {p : Problem} {dealing : Dealing} (h : dealing.1 = p.saveCall) :
    (p.adopt dealing).id = p.id.or dealing.assigned? := by
  rcases hid : p.id with _ | k
  · unfold adopt
    rcases dealing.assigned? with _ | k
    · exact hid
    · rfl
  · have hmodify : dealing.1 = .modifyProblem k p := h.trans (saveCall_of_some hid)
    rw [adopt, Dealing.assigned?_of_modifies hmodify]
    exact hid

/-- What becomes of the problem in an editor that is saved. -/
theorem Editor.problem_saved_outcome (e : Editor) (dealing : Dealing) (ttl : Duration)
    (now : Timestamp) : (e.saved dealing.outcome ttl now).problem = e.problem.adopt dealing := by
  obtain ⟨c, answer⟩ := dealing
  rcases answer with err | reply
  · cases c <;> rfl
  · cases c with
    | createProblem p =>
      have hassigned : Dealing.assigned? ⟨.createProblem p, .ok reply⟩ = reply.id := rfl
      rw [Dealing.outcome_created, Problem.adopt, hassigned]
      rcases reply.id with _ | k
      · rfl
      · rfl
    | _ => rfl

/-- An editor that is saved tells whether the save has failed. -/
theorem Editor.ok_saved_outcome (e : Editor) (dealing : Dealing) (ttl : Duration)
    (now : Timestamp) :
    (e.saved dealing.outcome ttl now).notification.map (·.ok) = some (!dealing.failed) := by
  obtain ⟨c, answer⟩ := dealing
  rcases answer with err | reply
  · cases c <;> rfl
  · cases c with
    | createProblem p =>
      have hfailed : Dealing.failed ⟨.createProblem p, .ok reply⟩ = reply.id.isNone := rfl
      rw [Dealing.outcome_created, hfailed]
      rcases reply.id with _ | k
      · rfl
      · rfl
    | _ => rfl

namespace Sitting

variable {judge : Judge σ} {id : SessionId} {e : Editor}

/-- A sitting whose judge keeps minutes from now on. -/
def minuted (t : Sitting σ) : Sitting (σ × List Dealing) :=
  { desk := t.desk, judge := (t.judge, []), calls := t.calls }

/-- The minutes. -/
def dealings (t : Sitting (σ × List Dealing)) : List Dealing := t.judge.2

section

variable {t : Sitting (σ × List Dealing)}

/-- **Editing is no dealing.** -/
theorem dealings_edit (h : t.editor? id = some e) (judge : Judge σ) (m : Moment)
    (request : EditorRequest) :
    (t.serve judge.minuted m (.edit id request)).dealings = t.dealings := by
  have hjudge := (serve_edit h judge.minuted m request).2.1
  rw [dealings, hjudge]
  rfl

/-- **A save is one dealing**: what is shown is sent, an id that comes back is taken over, and the
editor tells whether the save has failed. -/
theorem exists_dealing_of_save (h : t.editor? id = some e) (hloaded : e.isLoaded = true)
    (judge : Judge σ) (m : Moment) :
    ∃ dealing e', dealing.1 = e.problem.saveCall ∧
      (t.serve judge.minuted m (.save id)).dealings = t.dealings ++ [dealing] ∧
      (t.serve judge.minuted m (.save id)).editor? id = some e' ∧
      e'.isLoaded = e.isLoaded ∧ e'.problem = e.problem.adopt dealing ∧
      e'.notification.map (·.ok) = some (!dealing.failed) := by
  obtain ⟨-, hjudge, heditor⟩ := serve_save h hloaded judge.minuted m
  obtain ⟨dealing, hcall, hdealings, houtcome⟩ :=
    Desk.run_send_minuted judge t.judge.1 t.dealings e.problem
  refine ⟨dealing, _, hcall, ?_, heditor, e.isLoaded_saved _ _ _, ?_, ?_⟩
  · rw [dealings, hjudge]
    exact hdealings
  · rw [← e.problem_saved_outcome dealing t.desk.ttl m.now, ← houtcome]
    rfl
  · rw [← e.ok_saved_outcome dealing t.desk.ttl m.now, ← houtcome]
    rfl

/-- **Drafting**: the editor of an id has a problem, and that has the id that was assigned first. -/
def Drafts (t : Sitting (σ × List Dealing)) (id : SessionId) : Prop :=
  ∃ e, t.editor? id = some e ∧ e.isLoaded = true ∧ e.problem.id = assigned? t.dealings

/-- **A turn goes on with the draft**, unless another problem is swapped in. -/
theorem Drafts.serve (h : t.Drafts id) (m : Moment) {turn : EditorTurn}
    (hturn : ∀ q, turn ≠ .edit (.replace q)) :
    (t.serve judge.minuted m (turn.request id)).Drafts id := by
  obtain ⟨e, he, hloaded, hid⟩ := h
  cases turn with
  | edit request =>
    have heditor := (serve_edit he judge.minuted m request).2.2
    have hdealings := dealings_edit he judge m request
    have hsame : (e.attempt request).problem.id = e.problem.id := by
      rw [Editor.id_attempt hloaded]
      cases request with
      | replace q => exact absurd rfl (hturn q)
      | _ => rfl
    exact ⟨_, heditor, e.isLoaded_attempt hloaded request,
      (hsame.trans hid).trans (congrArg assigned? hdealings.symm)⟩
  | save =>
    obtain ⟨dealing, e', hcall, hdealings, he', hloaded', hproblem, -⟩ :=
      exists_dealing_of_save he hloaded judge m
    refine ⟨e', he', hloaded'.trans hloaded, ?_⟩
    rw [hproblem, Problem.id_adopt hcall, hid, ← assigned?_concat]
    exact congrArg assigned? hdealings.symm

theorem Drafts.attend (h : t.Drafts id) {turns : List (Moment × EditorTurn)}
    (hturns : ∀ turn ∈ turns, ∀ q, turn.2 ≠ .edit (.replace q)) :
    (t.attend judge.minuted id turns).Drafts id := by
  induction turns using List.reverseRecOn with
  | nil => exact h
  | append_singleton turns turn ih =>
    have hbefore : (t.attend judge.minuted id turns).Drafts id :=
      ih fun turn' hturn' => hturns turn' (List.mem_append_left _ hturn')
    rw [attend_concat]
    exact hbefore.serve turn.1 (hturns turn (List.mem_append_right _ List.mem_cons_self))

end

/-- **A sitting after a new problem was drafted**: an editor is opened for it, and some turns are
taken there. -/
def drafting (judge : Judge σ) (t : Sitting σ) (m : Moment) (turns : List (Moment × EditorTurn)) :
    Sitting (σ × List Dealing) :=
  (t.minuted.serve judge.minuted m (.openEditor none)).attend judge.minuted m.freshId turns

theorem drafting_concat (judge : Judge σ) (t : Sitting σ) (m : Moment)
    (turns : List (Moment × EditorTurn)) (turn : Moment × EditorTurn) :
    t.drafting judge m (turns ++ [turn]) =
      (t.drafting judge m turns).serve judge.minuted turn.1 (turn.2.request m.freshId) :=
  attend_concat turns turn

/-- An editor for a new problem has one that was not assigned an id. -/
theorem drafts_openEditor (judge : Judge σ) (t : Sitting σ) (m : Moment) :
    (t.minuted.serve judge.minuted m (.openEditor none)).Drafts m.freshId :=
  ⟨Editor.blank, Sessions.find?_insert_self _ _ _ _, rfl, rfl⟩

/-- **A new problem is created once, and modified from then on.** Whatever is done in its editor,
short of swapping in another problem, the problem has the id that was assigned first. The next save
sends what is shown: it creates a problem if no id was assigned yet, and modifies the one of that id
otherwise. It takes over the id that it is assigned, and if it fails, which the editor tells, the
problem stays as it is. Edits do not reach the judge. -/
theorem created_once (judge : Judge σ) (t : Sitting σ) (m : Moment)
    {turns : List (Moment × EditorTurn)}
    (hturns : ∀ turn ∈ turns, ∀ q, turn.2 ≠ .edit (.replace q)) :
    ∃ e, (t.drafting judge m turns).editor? m.freshId = some e ∧ e.isLoaded = true ∧
      e.problem.id = assigned? (t.drafting judge m turns).dealings ∧
      (∀ m', ∃ dealing e',
        (t.drafting judge m (turns ++ [(m', .save)])).dealings =
          (t.drafting judge m turns).dealings ++ [dealing] ∧
        dealing.1 =
          (match assigned? (t.drafting judge m turns).dealings with
          | none => .createProblem e.problem
          | some k => .modifyProblem k e.problem) ∧
        (t.drafting judge m (turns ++ [(m', .save)])).editor? m.freshId = some e' ∧
        e'.isLoaded = e.isLoaded ∧ e'.problem = e.problem.adopt dealing ∧
        e'.notification.map (·.ok) = some (!dealing.failed) ∧
        (dealing.failed = true → e'.problem = e.problem)) ∧
      ∀ m' request, (t.drafting judge m (turns ++ [(m', .edit request)])).dealings =
        (t.drafting judge m turns).dealings := by
  obtain ⟨e, he, hloaded, hid⟩ : (t.drafting judge m turns).Drafts m.freshId :=
    (drafts_openEditor judge t m).attend hturns
  refine ⟨e, he, hloaded, hid, fun m' => ?_, fun m' request => ?_⟩
  · obtain ⟨dealing, e', hcall, hdealings, he', hloaded', hproblem, hok⟩ :=
      exists_dealing_of_save he hloaded judge m'
    have hsave := drafting_concat judge t m turns (m', .save)
    refine ⟨dealing, e', ?_, ?_, ?_, hloaded', hproblem, hok, fun hfailed => ?_⟩
    · rw [hsave]
      exact hdealings
    · rw [hcall, Problem.saveCall, hid]
      rcases assigned? (t.drafting judge m turns).dealings with _ | k
      · rfl
      · rfl
    · rw [hsave]
      exact he'
    · rw [hproblem, Problem.adopt, Dealing.assigned?_of_failed hfailed]
  · rw [drafting_concat]
    exact dealings_edit he judge m' request

/-- A judge that fails at first, then takes a new problem without giving it an id, and gives one
from the third call on. -/
def hesitant : Judge Nat := fun n c =>
  (n + 1, match c with
    | .createProblem p =>
      if n = 0 then .error .internal else .ok { p with id := if n = 1 then none else some 7 }
    | .modifyProblem _ _ => .ok ()
    | _ => .error .internal)

/-- A title is typed between two saves, and after the third one it is tried to remove a group that
is not there. -/
def savedThrice : List (Moment × EditorTurn) :=
  [(noon, .save), (noon, .edit (.field "name" "Sum")), (noon, .save), (noon, .save),
    (noon, .edit (.group (some 0) "remove_group" none))]

/-- The desk at the beginning, with a judge that was not called yet. -/
def uncalled : Sitting Nat := { desk := { settings := {} }, judge := 0 }

theorem created_once_hesitant :
    (uncalled.drafting hesitant noon savedThrice).dealings.map (·.1) =
        [.createProblem {}, .createProblem { name := "Sum" }, .createProblem { name := "Sum" }] ∧
      ∃ e, (uncalled.drafting hesitant noon savedThrice).editor? noon.freshId = some e ∧
        e.problem.id = some 7 ∧
        ∀ m', ∃ dealing,
          (uncalled.drafting hesitant noon (savedThrice ++ [(m', .save)])).dealings =
            (uncalled.drafting hesitant noon savedThrice).dealings ++ [dealing] ∧
          dealing.1 = .modifyProblem 7 e.problem := by
  have hturns : ∀ turn ∈ savedThrice, ∀ q, turn.2 ≠ .edit (.replace q) := by
    intro turn hturn q
    simp only [savedThrice, List.mem_cons, List.not_mem_nil, or_false] at hturn
    rcases hturn with rfl | rfl | rfl | rfl | rfl <;> intro heq <;> cases heq
  obtain ⟨e, he, -, hid, hsave, -⟩ := created_once hesitant uncalled noon hturns
  have hassigned : assigned? (uncalled.drafting hesitant noon savedThrice).dealings = some 7 := by
    rfl
  refine ⟨rfl, e, he, hid.trans hassigned, fun m' => ?_⟩
  obtain ⟨dealing, -, hdealings, hcall, -⟩ := hsave m'
  rw [hassigned] at hcall
  exact ⟨dealing, hdealings, hcall⟩

end Sitting

end JudgeDesk
