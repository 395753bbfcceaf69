import JudgeDesk.Json.Tagged

/-!
# Intents for a viewer as documents

* `ViewerRequest` — the three intents;
* `ViewerRequest.decode` — reading one.
-/

namespace JudgeDesk

/-- **An intent for a viewer.** -/
inductive ViewerRequest where
  /-- show the source and the output of the compiler, or hide them -/
  | toggleCompilation
  /-- show the artifacts of a test, or hide them; tests are counted from one -/
  | toggleTest (test : Nat)
  /-- get the submission again -/
  | reload
  deriving DecidableEq, Repr

namespace ViewerRequest

/-- The kinds of intents. -/
inductive Kind where
  /-- showing or hiding the artifacts of the compilation -/
  | toggleCompilation
  /-- showing or hiding the artifacts of a test -/
  | toggleTest
  /-- getting the submission again -/
  | reload
  deriving DecidableEq, Repr

/-- The kind that a request names. -/
def Kind.ofName? : String → Option Kind
  | "toggle_compilation" => some .toggleCompilation
  | "toggle_test" => some .toggleTest
  | "reload" => some .reload
  | _ => none

/-- The field of the number of a test. -/
def testField : Field Nat := .required "test" Decode.count

/-- The record of a kind. -/
def decodeRecord : Kind → Decoder ViewerRequest
  | .toggleCompilation => fun v => do
    Decode.unitRecord v
    return .toggleCompilation
  | .toggleTest => fun v => do
    let given ← Decode.record [testField.check] v
    return .toggleTest (← testField.get given)
  | .reload => fun v => do
    Decode.unitRecord v
    return .reload

/-- An intent from a document. -/
def decode : Decoder ViewerRequest := fun v => do
  let (kind, record) ← Decode.tagged Kind.ofName? v
  Decode.recordOf (decodeRecord kind) record

end ViewerRequest

end JudgeDesk
