import JudgeDesk.Error
import JudgeDesk.Json.Record

/-!
# Envelopes

The judge wraps every reply in an envelope that has room for an error and for a payload.

* `Envelope` — the two;
* `Envelope.decode` — an envelope around payloads of some type;
* `result`, `optional`, `acknowledged` — what is taken out of it. An error always counts before the
  payload.
-/

namespace JudgeDesk

/-- **An envelope.** -/
structure Envelope (α : Type) where
  /-- what went wrong, in the words of the judge -/
  error : Option String := none
  /-- the payload -/
  response : Option α := none

namespace Envelope

/-- The field of the error. -/
def errorField : Field (Option String) := .optional "error" Decode.text

/-- The field of the payload. -/
def responseField (payload : Decoder α) : Field (Option α) := .optional "response" payload

/-- An envelope from a document. -/
def decode (payload : Decoder α) : Decoder (Envelope α) := fun v => do
  let given ← Decode.record [errorField.check, (responseField payload).check] v
  return { error := ← errorField.get given, response := ← (responseField payload).get given }

/-- A payload that may be missing. -/
def optional (e : Envelope α) : Except Error (Option α) :=
  match e.error with
  | some words => .error (.fetchFailed (.reported words))
  | none => .ok e.response

/-- **A payload** that must be there. -/
def result (e : Envelope α) : Except Error α := do
  match ← e.optional with
  | some x => .ok x
  | none => .error (.fetchFailed .emptyResponse)

/-- Nothing but that there was no error. -/
def acknowledged (e : Envelope α) : Except Error Unit := e.optional.map fun _ => ()

end Envelope

end JudgeDesk
