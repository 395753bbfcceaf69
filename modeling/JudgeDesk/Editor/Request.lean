import JudgeDesk.Json.Tagged
import JudgeDesk.Problem.Document
import JudgeDesk.Problem.Edit

/-!
# Intents for an editor as documents

A request names the field or the action; the names are looked up only when the whole request has
been understood.

* `EditorRequest` — an intent as it was sent;
* `EditorRequest.decode` — reading it;
* `EditorRequest.resolve` — the intent it stands for, or the name that means nothing.
-/

namespace JudgeDesk

/-- **An intent as it was sent.** -/
inductive EditorRequest where
  /-- swap in a problem -/
  | replace (problem : Problem)
  /-- set the field of that name -/
  | field (name value : String)
  /-- do the action of that name -/
  | group (index : Option Nat) (action : String) (value : Option String)
  deriving DecidableEq, Repr

namespace EditorRequest

/-- The kinds of intents. -/
inductive Kind where
  /-- swapping in a problem -/
  | replace
  /-- setting a field -/
  | field
  /-- acting on the test groups -/
  | group
  deriving DecidableEq, Repr

/-- The kind that a request names. -/
def Kind.ofName? : String → Option Kind
  | "replace" => some .replace
  | "field" => some .field
  | "group" => some .group
  | _ => none

/-- The field of the problem. -/
def problemField : Field Problem := .required "problem" Problem.decode

/-- The field of the name of a problem field. -/
def fieldField : Field String := .required "field" Decode.text

/-- The field of the value of a problem field. -/
def valueField : Field String := .defaulting "value" Decode.text ""

/-- The field of the position of a group. -/
def indexField : Field (Option Nat) := .optional "index" Decode.count

/-- The field of the name of an action. -/
def actionField : Field String := .required "action" Decode.text

/-- The field of the value of an action. -/
def actionValueField : Field (Option String) := .optional "value" Decode.text

/-- The record of a kind. -/
def decodeRecord : Kind → Decoder EditorRequest
  | .replace => fun v => do
    let given ← Decode.record [problemField.check] v
    return .replace (← problemField.get given)
  | .field => fun v => do
    let given ← Decode.record [fieldField.check, valueField.check] v
    return .field (← fieldField.get given) (← valueField.get given)
  | .group => fun v => do
    let given ← Decode.record [indexField.check, actionField.check, actionValueField.check] v
    return .group (← indexField.get given) (← actionField.get given) (← actionValueField.get given)

/-- An intent from a document. -/
def decode : Decoder EditorRequest := fun v => do
  let (kind, record) ← Decode.tagged Kind.ofName? v
  Decode.recordOf (decodeRecord kind) record

/-- **The intent** that a request stands for. An action without a value has an empty one. -/
def resolve : EditorRequest → Except Error ProblemIntent
  | .replace problem => .ok (.replace problem)
  | .field name value =>
    match ProblemField.ofName? name with
    | some f => .ok (.field f value)
    | none => .error (.invalidIntent (.unknownField name))
  | .group index name value =>
    match GroupAction.ofName? name (value.getD "") with
    | some action => .ok (.group index action)
    | none => .error (.invalidGroupAction name)

end EditorRequest

end JudgeDesk
