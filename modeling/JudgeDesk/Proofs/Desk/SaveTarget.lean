import Mathlib.Data.List.Induction
import JudgeDesk.Proofs.Desk.Sitting
import JudgeDesk.Proofs.Editor.Events

/-!
# Where saves go

An editor is opened on a problem of the judge's, things are done in it, and now and then it is
saved. A save goes to the id that the edited problem has. That is the id of the problem that was
brought in last, be it by the judge's answer or by an intent, as nothing else that is done in the
editor changes an id that is there; and it need not be the id that the editor was opened on.

* `EditorTurn`, `Sitting.attend` — what is done in an open editor, one after the other;
* `brought` — the problem that was brought in last;
* `Sitting.exists_editor_attend` — the edited problem has its id;
* `Sitting.writesTo_iff_brought` — all saves go to the problem that the editor was opened on exactly
  if the problem brought in last has its id at each of them;
* `Sitting.not_writesTo_withoutId` — the answer to the load may lack it.
-/

namespace JudgeDesk

variable {σ : Type}

/-! ### The id of the edited problem -/

namespace Problem

variable {p : Problem}

/-- **Only a problem that is swapped in changes the id.** -/
theorem id_step (p : Problem) (intent : ProblemIntent) :
    (p.step (.intent intent)).id =
      match intent with
      | .replace q => q.id
      | _ => p.id := by
  cases intent with
  | replace q => rfl
  | field field value => exact p.id_setField field value
  | group index action =>
    rw [Problem.step]
    split
    · next p' happly =>
      obtain ⟨groups, -, rfl⟩ := apply_group_eq_ok happly
      rfl
    · rfl

theorem saveCall_of_some {k : UInt64} (h : p.id = some k) : p.saveCall = .modifyProblem k p := by
  simp only [saveCall, h]

theorem id_of_saveCall {k : UInt64} (h : p.saveCall = .modifyProblem k p) : p.id = some k := by
  unfold saveCall at h
  split at h
  · next id hid =>
    rw [hid, (Call.modifyProblem.inj h).1]
  · cases h

end Problem

namespace Editor

variable {e : Editor}

/-- **In an editor with a problem an intent changes the problem**, and nothing else. -/
theorem attempt_of_isLoaded (h : e.isLoaded = true) (request : EditorRequest) :
    e.attempt request =
      { e with
        problem :=
          match request.resolve with
          | .ok intent => e.problem.step (.intent intent)
          | .error _ => e.problem } := by
  unfold attempt
  rcases request.resolve with err | intent
  · rfl
  · simp only [apply_eq, if_pos h, Problem.step]
    rcases e.problem.apply intent with err | problem
    · rfl
    · rfl

theorem isLoaded_attempt (h : e.isLoaded = true) (request : EditorRequest) :
    (e.attempt request).isLoaded = true := by
  rw [attempt_of_isLoaded h]
  exact h

theorem id_attempt (h : e.isLoaded = true) (request : EditorRequest) :
    (e.attempt request).problem.id =
      match request with
      | .replace q => q.id
      | _ => e.problem.id := by
  rw [attempt_of_isLoaded h]
  cases request with
  | replace q => rfl
  | field name value =>
    simp only [EditorRequest.resolve]
    rcases ProblemField.ofName? name with _ | field
    · rfl
    · exact e.problem.id_step (.field field value)
  | group index name value =>
    simp only [EditorRequest.resolve]
    rcases GroupAction.ofName? name (value.getD "") with _ | action
    · rfl
    · exact e.problem.id_step (.group index action)

theorem isLoaded_saved (e : Editor) (result : Except Error (Option UInt64)) (ttl : Duration)
    (now : Timestamp) : (e.saved result ttl now).isLoaded = e.isLoaded := by
  cases result <;> rfl

/-- A save that brings no new id leaves the problem as it is. -/
theorem problem_saved (e : Editor) (result : Except Error Unit) (ttl : Duration)
    (now : Timestamp) : (e.saved (result.map fun _ => none) ttl now).problem = e.problem := by
  cases result <;> rfl

end Editor

/-! ### Turns -/

/-- **What is done in an open editor.** -/
inductive EditorTurn where
  /-- the operator does something -/
  | edit (request : EditorRequest)
  /-- the problem is saved -/
  | save

/-- A turn as a request. -/
def EditorTurn.request (id : SessionId) : EditorTurn → Request
  | .edit request => .edit id request
  | .save => .save id

/-- The problem that a turn brings in, if it does. -/
def EditorTurn.bring (p : Problem) : EditorTurn → Problem
  | .edit (.replace q) => q
  | _ => p

/-- **The problem that was brought in last**, by the turns or before them. -/
def brought (p : Problem) (turns : List (Moment × EditorTurn)) : Problem :=
  turns.foldl (fun p turn => turn.2.bring p) p

section

variable {p : Problem} {k : UInt64}

@[simp] theorem brought_concat (turns : List (Moment × EditorTurn)) (turn : Moment × EditorTurn) :
    brought p (turns ++ [turn]) = turn.2.bring (brought p turns) := by
  simp only [brought, List.foldl_append, List.foldl_cons, List.foldl_nil]

/-- If all problems that are brought in have the same id, so has the last one. -/
theorem id_brought (hp : p.id = some k) {turns : List (Moment × EditorTurn)}
    (hturns : ∀ turn ∈ turns, ∀ q, turn.2 = .edit (.replace q) → q.id = some k) :
    (brought p turns).id = some k := by
  induction turns using List.reverseRecOn with
  | nil => exact hp
  | append_singleton turns turn ih =>
    have hbefore : (brought p turns).id = some k :=
      ih fun turn' hturn' => hturns turn' (List.mem_append_left _ hturn')
    rw [brought_concat]
    unfold EditorTurn.bring
    split
    · next q heq => exact hturns turn (List.mem_append_right _ List.mem_cons_self) q heq
    · exact hbefore

end

namespace Sitting

variable {judge : Judge σ} {t : Sitting σ} {id : SessionId} {p : Problem} {k : UInt64}

/-- **A sitting after several turns** in the editor of an id. -/
def attend (judge : Judge σ) (id : SessionId) (t : Sitting σ)
    (turns : List (Moment × EditorTurn)) : Sitting σ :=
  turns.foldl (fun t turn => t.serve judge turn.1 (turn.2.request id)) t

@[simp] theorem attend_concat (turns : List (Moment × EditorTurn)) (turn : Moment × EditorTurn) :
    t.attend judge id (turns ++ [turn]) =
      (t.attend judge id turns).serve judge turn.1 (turn.2.request id) := by
  simp only [attend, List.foldl_append, List.foldl_cons, List.foldl_nil]

/-- **Editing a problem**: the editor of an id has a problem with the id of another one. -/
def Edits (t : Sitting σ) (id : SessionId) (p : Problem) : Prop :=
  ∃ e, t.editor? id = some e ∧ e.isLoaded = true ∧ e.problem.id = p.id

/-- **A turn keeps track of the problem that was brought in last**, unless a problem without an id
is saved, which may get one. -/
theorem Edits.serve (h : t.Edits id p) (m : Moment) {turn : EditorTurn}
    (hturn : turn = .save → p.id ≠ none) :
    (t.serve judge m (turn.request id)).Edits id (turn.bring p) := by
  obtain ⟨e, he, hloaded, hid⟩ := h
  cases turn with
  | edit request =>
    refine ⟨_, (serve_edit he judge m request).2.2, e.isLoaded_attempt hloaded request, ?_⟩
    rw [Editor.id_attempt hloaded]
    cases request with
    | replace q => rfl
    | _ => exact hid
  | save =>
    obtain ⟨j, hj⟩ := Option.ne_none_iff_exists'.mp (hturn rfl)
    refine ⟨_, (serve_save he hloaded judge m).2.2, (e.isLoaded_saved _ _ _).trans hloaded, ?_⟩
    rw [Desk.run_send_of_some judge t.judge (hid.trans hj), e.problem_saved]
    exact hid

/-- **The edited problem has the id of the one that was brought in last**, as long as that has one
whenever it is saved. -/
theorem Edits.attend (h : t.Edits id p) {turns : List (Moment × EditorTurn)}
    (hsaves : ∀ front m, front ++ [(m, .save)] <+: turns → (brought p front).id ≠ none) :
    (t.attend judge id turns).Edits id (brought p turns) := by
  induction turns using List.reverseRecOn with
  | nil => exact h
  | append_singleton turns turn ih =>
    have hbefore : ∀ front m, front ++ [(m, .save)] <+: turns → (brought p front).id ≠ none :=
      fun front m hfront => hsaves front m (hfront.trans (List.prefix_append _ _))
    obtain ⟨m, last⟩ := turn
    rw [attend_concat, brought_concat]
    refine (ih hbefore).serve m fun hlast => ?_
    obtain rfl : last = .save := hlast
    exact hsaves turns m List.prefix_rfl

/-- **A save goes to a problem**: it makes one call, which modifies the judge's problem of that id,
and sends what is shown. -/
def WritesTo (judge : Judge σ) (t : Sitting σ) (id : SessionId) (m : Moment) (k : UInt64) : Prop :=
  ∃ e, t.editor? id = some e ∧
    (t.serve judge m (.save id)).calls = t.calls ++ [.modifyProblem k e.problem]

/-- A save goes to the id of the problem that was brought in last. -/
theorem Edits.writesTo_iff (h : t.Edits id p) (m : Moment) :
    t.WritesTo judge id m k ↔ p.id = some k := by
  obtain ⟨e, he, hloaded, hid⟩ := h
  have hcalls := (serve_save he hloaded judge m).1
  rw [← hid]
  constructor
  · rintro ⟨e', he', hwrites⟩
    obtain rfl := Option.some.inj (he.symm.trans he')
    rw [hcalls, List.append_cancel_left_eq, List.cons.injEq] at hwrites
    exact Problem.id_of_saveCall hwrites.1
  · intro hk
    refine ⟨e, he, ?_⟩
    rw [hcalls, Problem.saveCall_of_some hk]

/-- An editor that is opened on a problem has the problem of the judge's answer. -/
theorem edits_openEditor (judge : Judge σ) (t : Sitting σ) (m : Moment) {k : UInt64} {p : Problem}
    (hanswer : (judge t.judge (.getProblem k)).2 = .ok p) :
    (t.serve judge m (.openEditor (some k))).Edits m.freshId p := by
  refine ⟨_, (serve_openEditor judge t m k).2, ?_, ?_⟩ <;> rw [hanswer] <;> rfl

/-- **All saves go to the problem that the editor was opened on exactly if the problem that was
brought in last has its id at each of them.** -/
theorem writesTo_iff_brought (judge : Judge σ) (t : Sitting σ) (m : Moment) {k : UInt64}
    {p : Problem} (hanswer : (judge t.judge (.getProblem k)).2 = .ok p)
    (turns : List (Moment × EditorTurn)) :
    (∀ front m', front ++ [(m', .save)] <+: turns →
      ((t.serve judge m (.openEditor (some k))).attend judge m.freshId front).WritesTo judge
        m.freshId m' k) ↔
      ∀ front m', front ++ [(m', .save)] <+: turns → (brought p front).id = some k := by
  have hopen := edits_openEditor judge t m hanswer
  -- if the problem had the id at all saves so far, the edited problem still goes with it
  have hedits {front : List (Moment × EditorTurn)}
      (h : ∀ front' m'', front' ++ [(m'', .save)] <+: front → (brought p front').id = some k) :
      ((t.serve judge m (.openEditor (some k))).attend judge m.freshId front).Edits m.freshId
        (brought p front) := by
    refine hopen.attend fun front' m'' hsave => ?_
    rw [h front' m'' hsave]
    exact Option.some_ne_none k
  constructor
  · intro h front m' hsave
    induction hlength : front.length using Nat.strongRecOn generalizing front m' with
    | ind n ih =>
      have hbefore : ∀ front' m'', front' ++ [(m'', .save)] <+: front →
          (brought p front').id = some k := by
        intro front' m'' hsave'
        have hlt : front'.length < n := by
          have hle := hsave'.length_le
          rw [List.length_append, List.length_singleton, hlength] at hle
          exact hle
        exact ih _ hlt front' m'' ((hsave'.trans (List.prefix_append _ _)).trans hsave) rfl
      exact ((hedits hbefore).writesTo_iff m').mp (h front m' hsave)
  · intro h front m' hsave
    have hbefore : ∀ front' m'', front' ++ [(m'', .save)] <+: front →
        (brought p front').id = some k := fun front' m'' hsave' =>
      h front' m'' ((hsave'.trans (List.prefix_append _ _)).trans hsave)
    exact ((hedits hbefore).writesTo_iff m').mpr (h front m' hsave)

/-- A judge that answers every call for a problem with the same one, and that takes what it is
given. -/
def answering (p : Problem) : Judge Unit := fun s c =>
  (s, match c with
    | .getProblem _ => .ok p
    | .createProblem q => .ok { q with id := some 99 }
    | .modifyProblem _ _ => .ok ()
    | _ => .error .internal)

/-- The desk at the beginning. -/
def start : Sitting Unit := { desk := { settings := {} }, judge := () }

/-- A moment. -/
def noon : Moment := { now := 0, uptime := 0, freshId := ⟨0⟩ }

/-- The title is changed and the problem saved, another problem of the same id is swapped in, and
that is saved. -/
def titleTyped : List (Moment × EditorTurn) :=
  [(noon, .edit (.field "name" "Sum of two")), (noon, .save),
    (noon, .edit (.replace { id := some 7, name := "Sum" })), (noon, .save)]

theorem writesTo_titleTyped :
    ((start.serve (answering { id := some 7 }) noon (.openEditor (some 7))).attend
        (answering { id := some 7 }) noon.freshId (titleTyped.take 1)).WritesTo
          (answering { id := some 7 }) noon.freshId noon 7 ∧
      ((start.serve (answering { id := some 7 }) noon (.openEditor (some 7))).attend
        (answering { id := some 7 }) noon.freshId (titleTyped.take 3)).WritesTo
          (answering { id := some 7 }) noon.freshId noon 7 := by
  have hbrought : ∀ front m, front ++ [(m, .save)] <+: titleTyped →
      (brought { id := some 7 } front).id = some 7 := by
    intro front m hsave
    have hfront : front ⊆ titleTyped := ((List.prefix_append _ _).trans hsave).subset
    refine id_brought rfl fun turn hturn q hq => ?_
    have hmem := hfront hturn
    simp only [titleTyped, List.mem_cons, List.not_mem_nil, or_false] at hmem
    rcases hmem with rfl | rfl | rfl | rfl <;> cases hq
    rfl
  have hwrites :=
    (writesTo_iff_brought (answering { id := some 7 }) start noon rfl titleTyped).mpr hbrought
  exact ⟨hwrites (titleTyped.take 1) noon ⟨titleTyped.drop 2, rfl⟩,
    hwrites (titleTyped.take 3) noon ⟨[], rfl⟩⟩

/-- An editor is opened on a problem that comes without an id, and saved: a new problem is
created. -/
theorem not_writesTo_withoutId :
    (((start.serve (answering { name := "Sum" }) noon (.openEditor (some 7))).serve
        (answering { name := "Sum" }) noon (.save noon.freshId)).calls =
      [.getProblem 7, .createProblem { name := "Sum" }]) ∧
    ¬(start.serve (answering { name := "Sum" }) noon (.openEditor (some 7))).WritesTo
      (answering { name := "Sum" }) noon.freshId noon 7 := by
  refine ⟨rfl, fun hwrites => ?_⟩
  have hid := ((edits_openEditor (answering { name := "Sum" }) start noon rfl).writesTo_iff
    noon).mp hwrites
  cases hid

end Sitting

end JudgeDesk
