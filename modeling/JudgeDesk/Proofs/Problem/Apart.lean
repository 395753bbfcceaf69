import Mathlib.Data.List.Induction
import JudgeDesk.Proofs.Problem.Run
import JudgeDesk.Proofs.TestGroup.Replay

/-!
# Fields and groups apart

An operator fills in the fields of a problem and acts on its test groups, now here and now there.
Each field keeps to what was typed into it, the groups keep to what was done to them, and nothing
else matters: it makes no difference in which order the operator turned from one to the other.

* `ProblemField.Value`, `Problem.get` — what a field holds;
* `ProblemField.meaning?` — what a text means that is typed into a field, unless it is ignored;
* `Problem.get_setField_self`, `Problem.get_setField_ne` — setting a field;
* `Edit`, `Problem.edited`, `Problem.answers` — edits, what becomes of a problem, and what is said
  to actions on its groups;
* `Problem.answers_eq`, `Problem.groups_edited`, `Problem.get_edited`, `Problem.id_edited` — what
  each part of a problem depends on;
* `Problem.edited_apart` — all of this, and that the order of edits of different parts does not
  matter.
-/

namespace JudgeDesk

/-! ### Fields -/

namespace ProblemField

/-- What a field holds. -/
abbrev Value : ProblemField → Type
  | .name => String
  | .problemType => ProblemType
  | .timeLimit => String
  | .memoryLimit => String
  | .testsNumber => UInt64
  | .wallTimeLimit => Option String
  | .maxOpenFiles => Option UInt64
  | .maxThreads => Option UInt64
  | .maxOutputSize => Option String

/-- A text for a limit that is a number: nothing takes the limit away. -/
def limit? (value : String) : Option (Option UInt64) :=
  if value = "" then some none else (Text.uint64? (Text.trim value)).map some

/-- **What a text means** that is typed into a field; none for one that is ignored, as it does not
read as what the field holds. -/
def meaning? : (field : ProblemField) → String → Option field.Value
  | .name, value => some value
  | .problemType, value => Coded.ofText? value
  | .timeLimit, value => some value
  | .memoryLimit, value => some value
  | .testsNumber, value => Text.uint64? (Text.trim value)
  | .wallTimeLimit, value => some (if value = "" then none else some value)
  | .maxOpenFiles, value => limit? value
  | .maxThreads, value => limit? value
  | .maxOutputSize, value => some (if value = "" then none else some value)

end ProblemField

/-! ### Edits -/

/-- **An edit**: something is typed into a field, or the groups are acted on. -/
inductive Edit where
  /-- a field is set to what was typed -/
  | field (field : ProblemField) (value : String)
  /-- the groups are acted on -/
  | group (index : Option Nat) (action : GroupAction)

namespace Edit

/-- The intent that an edit comes to. -/
def intent : Edit → ProblemIntent
  | .field f value => .field f value
  | .group index action => .group index action

/-- What is typed into a field; none for an edit of anything else. -/
def typedInto? (f : ProblemField) : Edit → Option String
  | .field f' value => if f' = f then some value else none
  | .group _ _ => none

/-- The action on the groups, with its position; none for an edit of a field. -/
def action? : Edit → Option (Option Nat × GroupAction)
  | .field _ _ => none
  | .group index action => some (index, action)

end Edit

namespace TestGroup

/-- **The groups after some actions**, each of which may be refused. -/
def attemptAll (groups : List TestGroup) (actions : List (Option Nat × GroupAction)) :
    List TestGroup :=
  actions.foldl (fun groups a => attempt groups a.1 a.2) groups

theorem attemptAll_append (groups : List TestGroup)
    (actions actions' : List (Option Nat × GroupAction)) :
    attemptAll groups (actions ++ actions') = attemptAll (attemptAll groups actions) actions' :=
  List.foldl_append

/-- **What is said to some actions**, each at its turn: that it is accepted, or why it is not. -/
def answers : List TestGroup → List (Option Nat × GroupAction) → List (Except Error Unit)
  | _, [] => []
  | groups, a :: rest =>
    ((apply groups a.1 a.2).map fun _ => ()) :: answers (attempt groups a.1 a.2) rest

end TestGroup

namespace Problem

/-- What a problem holds in a field. -/
def get (p : Problem) : (field : ProblemField) → field.Value
  | .name => p.name
  | .problemType => p.problemType
  | .timeLimit => p.timeLimit
  | .memoryLimit => p.memoryLimit
  | .testsNumber => p.testsNumber
  | .wallTimeLimit => p.wallTimeLimit
  | .maxOpenFiles => p.maxOpenFiles
  | .maxThreads => p.maxThreads
  | .maxOutputSize => p.maxOutputSize

/-- **A problem after some edits**; one that is refused changes nothing. -/
def edited (p : Problem) (edits : List Edit) : Problem :=
  p.run (edits.map fun e => .intent e.intent)

/-- What is said to an edit that acts on the groups. -/
def answer? (p : Problem) : Edit → Option (Except Error Unit)
  | .field _ _ => none
  | .group index action => some ((p.apply (.group index action)).map fun _ => ())

/-- **What is said to the actions on groups** among some edits, each at its turn. -/
def answers : Problem → List Edit → List (Except Error Unit)
  | _, [] => []
  | p, e :: rest => (p.answer? e).toList ++ answers (p.step (.intent e.intent)) rest

variable {p q : Problem} {field field' : ProblemField}

/-! ### Single edits -/

/-- The parts of a problem make it up. -/
theorem eq_of_get (hid : p.id = q.id) (hget : ∀ field, p.get field = q.get field)
    (hgroups : p.groups = q.groups) : p = q := by
  calc p = { id := p.id, name := p.get .name, problemType := p.get .problemType,
             timeLimit := p.get .timeLimit, memoryLimit := p.get .memoryLimit,
             testsNumber := p.get .testsNumber, wallTimeLimit := p.get .wallTimeLimit,
             maxOpenFiles := p.get .maxOpenFiles, maxThreads := p.get .maxThreads,
             maxOutputSize := p.get .maxOutputSize, groups := p.groups } := rfl
    _ = q := by
      simp only [hid, hget, hgroups]
      rfl

theorem typedLimit_eq (old : Option UInt64) (value : String) :
    typedLimit old value = (ProblemField.limit? value).getD old := by
  unfold typedLimit ProblemField.limit?
  split
  · rfl
  · rcases Text.uint64? (Text.trim value) with _ | n <;> rfl

/-- **A field that is set holds what was meant**, or what it held if the text is ignored. -/
theorem get_setField_self (p : Problem) (field : ProblemField) (value : String) :
    (p.setField field value).get field = (field.meaning? value).getD (p.get field) := by
  cases field with
  | maxOpenFiles => exact typedLimit_eq p.maxOpenFiles value
  | maxThreads => exact typedLimit_eq p.maxThreads value
  | _ =>
    simp only [setField, get, typedText, ProblemField.meaning?, Option.getD_some]

/-- **No other field changes.** -/
theorem get_setField_ne (p : Problem) (value : String) (h : field' ≠ field) :
    (p.setField field value).get field' = p.get field' := by
  cases field <;> cases field' <;> first | exact absurd rfl h | simp only [setField, get]

/-- Acting on the groups is up to the groups. -/
theorem apply_group (p : Problem) (index : Option Nat) (action : GroupAction) :
    p.apply (.group index action) =
      (TestGroup.apply p.groups index action).map fun groups => { p with groups } := by
  change (TestGroup.apply p.groups index action >>= fun groups => .ok { p with groups }) = _
  rcases TestGroup.apply p.groups index action with err | groups <;> rfl

theorem step_group (p : Problem) (index : Option Nat) (action : GroupAction) :
    p.step (.intent (.group index action)) =
      { p with groups := TestGroup.attempt p.groups index action } := by
  simp only [step, apply_group, TestGroup.attempt]
  rcases TestGroup.apply p.groups index action with err | groups <;> rfl

theorem step_edit_cases (p : Problem) (e : Edit) :
    (∃ field value, e = .field field value ∧ p.step (.intent e.intent) = p.setField field value) ∨
      ∃ index action, e = .group index action ∧ p.step (.intent e.intent) =
        { p with groups := TestGroup.attempt p.groups index action } := by
  cases e with
  | field f value => exact .inl ⟨f, value, rfl, rfl⟩
  | group index action => exact .inr ⟨index, action, rfl, p.step_group index action⟩

/-! ### Runs of edits -/

@[simp] theorem edited_concat (p : Problem) (edits : List Edit) (e : Edit) :
    p.edited (edits ++ [e]) = (p.edited edits).step (.intent e.intent) := by
  simp only [edited, run, List.map_append, List.map_cons, List.map_nil, List.foldl_append,
    List.foldl_cons, List.foldl_nil]

/-- **What is said to actions on the groups** depends on these actions alone. -/
theorem answers_eq (p : Problem) (edits : List Edit) :
    p.answers edits = TestGroup.answers p.groups (edits.filterMap Edit.action?) := by
  induction edits generalizing p with
  | nil => rfl
  | cons e rest ih =>
    cases e with
    | field f value =>
      rw [answers, ih]
      exact congrArg (TestGroup.answers · _) (p.groups_setField f value)
    | group index action =>
      have haction : ((Edit.group index action :: rest).filterMap Edit.action?) =
          (index, action) :: rest.filterMap Edit.action? := rfl
      have hanswer : (p.apply (.group index action)).map (fun _ => ()) =
          (TestGroup.apply p.groups index action).map fun _ => () := by
        rw [apply_group]
        rcases TestGroup.apply p.groups index action with _ | _ <;> rfl
      rw [answers, ih, haction, TestGroup.answers, answer?, hanswer]
      exact congrArg (_ :: TestGroup.answers · _)
        (congrArg Problem.groups (p.step_group index action))

/-- **The groups** depend on the actions on them alone. -/
theorem groups_edited (p : Problem) (edits : List Edit) :
    (p.edited edits).groups =
      TestGroup.attemptAll p.groups (edits.filterMap Edit.action?) := by
  induction edits using List.reverseRecOn with
  | nil => rfl
  | append_singleton edits e ih =>
    rw [edited_concat, List.filterMap_append, TestGroup.attemptAll_append, ← ih]
    rcases (p.edited edits).step_edit_cases e with
      ⟨f, value, rfl, hstep⟩ | ⟨index, action, rfl, hstep⟩
    · rw [hstep, groups_setField]
      rfl
    · rw [hstep]
      rfl

/-- **A field holds what was typed into it last**, of what was not ignored, and nothing else
matters. -/
theorem get_edited (p : Problem) (edits : List Edit) (field : ProblemField) :
    (p.edited edits).get field =
      (((edits.filterMap (Edit.typedInto? field)).filterMap field.meaning?).getLast?).getD
        (p.get field) := by
  induction edits using List.reverseRecOn with
  | nil => rfl
  | append_singleton edits e ih =>
    rw [edited_concat, List.filterMap_append, List.filterMap_append]
    rcases (p.edited edits).step_edit_cases e with
      ⟨f, value, rfl, hstep⟩ | ⟨index, action, rfl, hstep⟩
    · rw [hstep]
      by_cases hf : f = field
      · subst hf
        have htyped : [Edit.field f value].filterMap (Edit.typedInto? f) = [value] := by
          simp [Edit.typedInto?]
        rw [get_setField_self, ih, htyped]
        rcases hmeaning : f.meaning? value with _ | x
        · simp [hmeaning]
        · simp [hmeaning]
      · have htyped : [Edit.field f value].filterMap (Edit.typedInto? field) = [] := by
          simp [Edit.typedInto?, hf]
        rw [get_setField_ne _ _ (Ne.symm hf), ih, htyped, List.filterMap_nil, List.append_nil]
    · have hget : ((p.edited edits).step (.intent (Edit.group index action).intent)).get field =
          (p.edited edits).get field := by
        rw [hstep]
        cases field <;> rfl
      have htyped : [Edit.group index action].filterMap (Edit.typedInto? field) = [] := rfl
      rw [hget, ih, htyped, List.filterMap_nil, List.append_nil]

/-- **The id** depends on nothing. -/
theorem id_edited (p : Problem) (edits : List Edit) : (p.edited edits).id = p.id := by
  induction edits using List.reverseRecOn with
  | nil => rfl
  | append_singleton edits e ih =>
    rw [edited_concat, ← ih]
    rcases (p.edited edits).step_edit_cases e with
      ⟨f, value, -, hstep⟩ | ⟨index, action, -, hstep⟩
    · rw [hstep, id_setField]
    · rw [hstep]

/-- **Fields and groups apart.** Whatever problem is edited and however: what is said to the actions
on its groups, and what the groups come to, is what it would be if nothing else had been done; each
field holds what was typed into it last of all that was not ignored, or what it held before; and the
id stays. So two ways of taking turns, with the same actions on the groups in the same order and the
same texts typed into each field in the same order, end in the same problem. -/
theorem edited_apart (p : Problem) (edits : List Edit) :
    p.answers edits = TestGroup.answers p.groups (edits.filterMap Edit.action?) ∧
    (p.edited edits).groups = TestGroup.attemptAll p.groups (edits.filterMap Edit.action?) ∧
    (∀ field, (p.edited edits).get field =
      (((edits.filterMap (Edit.typedInto? field)).filterMap field.meaning?).getLast?).getD
        (p.get field)) ∧
    (p.edited edits).id = p.id ∧
    ∀ others : List Edit, others.filterMap Edit.action? = edits.filterMap Edit.action? →
      (∀ field, others.filterMap (Edit.typedInto? field) =
        edits.filterMap (Edit.typedInto? field)) →
      p.edited others = p.edited edits := by
  refine ⟨p.answers_eq edits, p.groups_edited edits, p.get_edited edits, p.id_edited edits,
    fun others hactions htyped => eq_of_get ?_ (fun field => ?_) ?_⟩
  · rw [id_edited, id_edited]
  · rw [get_edited, get_edited, htyped]
  · rw [groups_edited, groups_edited, hactions]

/-- An operator who turns from fields to groups and back all the time. A number is mistyped, a limit
is taken away again, and an action on a group that is not there is refused. -/
def restless : List Edit :=
  [.field .testsNumber " 12 ", .group none .addGroup, .field .testsNumber "a dozen",
    .group (some 5) .removeGroup, .field .maxThreads "3", .group (some 0) (.setName "A"),
    .field .problemType "2", .field .maxThreads "", .group none .addGroup, .field .name "Sum",
    .group (some 1) (.addRequired "A"), .field .maxThreads "none"]

/-- The same edits, those of one part after those of another. -/
def orderly : List Edit :=
  [.field .name "Sum", .field .maxThreads "3", .field .maxThreads "", .field .maxThreads "none",
    .group none .addGroup, .group (some 5) .removeGroup, .group (some 0) (.setName "A"),
    .group none .addGroup, .group (some 1) (.addRequired "A"), .field .problemType "2",
    .field .testsNumber " 12 ", .field .testsNumber "a dozen"]

theorem edited_apart_restless :
    orderly.filterMap Edit.action? = restless.filterMap Edit.action? ∧
      (∀ field, orderly.filterMap (Edit.typedInto? field) =
        restless.filterMap (Edit.typedInto? field)) ∧
      edited { id := some 7, maxThreads := some 1 } orderly =
        edited { id := some 7, maxThreads := some 1 } restless ∧
      edited { id := some 7, maxThreads := some 1 } restless =
        { id := some 7, name := "Sum", problemType := .ioi, testsNumber := 12,
          groups := [{ name := "A" }, { required := ["A"] }] } := by
  have hactions : orderly.filterMap Edit.action? = restless.filterMap Edit.action? := rfl
  have htyped (field : ProblemField) : orderly.filterMap (Edit.typedInto? field) =
      restless.filterMap (Edit.typedInto? field) := by
    cases field <;> rfl
  obtain ⟨-, -, -, -, hsame⟩ := edited_apart { id := some 7, maxThreads := some 1 } restless
  exact ⟨hactions, htyped, hsame orderly hactions htyped, by decide +kernel⟩

end Problem

end JudgeDesk
