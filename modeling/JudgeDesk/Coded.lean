import JudgeDesk.Json.Record
import JudgeDesk.Text.Numeral

/-!
# Coded values

A few choices, such as the kind of scoring, stand in documents and in form fields as small numbers.

* `Coded` — a type whose values have codes;
* `ofCode` — the value of a code, or a report of the unknown code;
* `ofText?` — the value of a code typed into a form;
* `decode`, `encode` — codes in documents.
-/

namespace JudgeDesk

/-- A code that stands for no value. -/
structure UnknownCode where
  /-- what kind of value was wanted -/
  kind : String
  /-- the code that was given -/
  code : Nat
  deriving DecidableEq, Repr

/-- The report of an unknown code. -/
def UnknownCode.message (e : UnknownCode) : String :=
  "unknown " ++ e.kind ++ " code " ++ Text.decimal e.code

/-- **Coded values.** Every value has a code of one byte, and no two values share one. -/
class Coded (α : Type) where
  /-- what the values are called in reports -/
  kind : String
  /-- the code of a value -/
  code : α → Nat
  /-- the value of a code -/
  ofCode? : Nat → Option α
  /-- a code leads back to its value -/
  ofCode?_code : ∀ x, ofCode? (code x) = some x
  /-- a code is a byte -/
  code_lt : ∀ x, code x < UInt8.size

namespace Coded

/-- The value of a code; an unknown code is reported with the kind of value that was wanted. -/
def ofCode [Coded α] (code : Nat) : Except UnknownCode α :=
  match ofCode? code with
  | some x => .ok x
  | none => .error ⟨kind α, code⟩

/-- The value of a code typed into a form, blanks around it allowed. -/
def ofText? [Coded α] (s : String) : Option α := (Text.byte? (Text.trim s)).bind ofCode?

/-- A code in a document. -/
def decode [Coded α] : Decoder α := Decode.coded ofCode?

/-- The code of a value, for a document. -/
def encode [Coded α] (x : α) : Json := Json.ofNat (code x)

end Coded

end JudgeDesk
