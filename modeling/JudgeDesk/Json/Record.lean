import JudgeDesk.Json.Basic

/-!
# Decoding

Scalars, lists and records. A record may be given as an object, in any order and with members that
nobody knows, or as an array of its fields in their declared order. Either way the text is read
once from left to right, and the first error decides.

* `uint64`, `int32`, `real64`, `text`, `truth` — scalars;
* `nullable`, `list` — optional values and lists;
* `Field` — one field of a record, with what it is when it is left out;
* `record` — the values given for the fields, each of them checked where it stands.
-/

namespace JudgeDesk

namespace Decode

/-- A whole number from `low` up to but not including `high`. -/
def integer (low high : Int) : Decoder Int
  | .int n => if low ≤ n ∧ n < high then .ok n else .error .mismatched
  | v => .error v.unexpected

/-- An unsigned number of sixty-four bits. -/
def uint64 : Decoder UInt64 := fun v =>
  (integer 0 UInt64.size v).map fun n => UInt64.ofNat n.toNat

/-- An unsigned number of thirty-two bits. -/
def uint32 : Decoder UInt32 := fun v =>
  (integer 0 UInt32.size v).map fun n => UInt32.ofNat n.toNat

/-- An unsigned number of sixty-four bits, as an index or a count. -/
def count : Decoder Nat := fun v => (integer 0 UInt64.size v).map Int.toNat

/-- A signed number of thirty-two bits. -/
def int32 : Decoder Int32 := fun v => (integer (-0x80000000) 0x80000000 v).map Int32.ofInt

/-- A number; a whole number is rounded to the nearest pattern. -/
def real64 : Decoder Binary64
  | .int n => .ok (Binary64.ofInt n)
  | .real x => .ok x
  | v => .error v.unexpected

/-- A string. -/
def text : Decoder String
  | .string s => .ok s
  | v => .error v.unexpected

/-- A truth value. -/
def truth : Decoder Bool
  | .bool b => .ok b
  | v => .error v.unexpected

/-- One of the values that `ofCode?` has for the codes of one byte. -/
def coded (ofCode? : Nat → Option α) : Decoder α := fun v =>
  (integer 0 UInt8.size v).bind fun n =>
    match ofCode? n.toNat with
    | some x => .ok x
    | none => .error .mismatched

/-- A value or null. -/
def nullable (decode : Decoder α) : Decoder (Option α)
  | .null => .ok none
  | v => (decode v).map some

/-- Items decoded from left to right. -/
def items (decode : Decoder α) : List Json → Except Refusal (List α)
  | [] => .ok []
  | v :: rest => do
    let x ← decode v
    let xs ← items decode rest
    .ok (x :: xs)

/-- A list of values. -/
def list (decode : Decoder α) : Decoder (List α)
  | .array vs => items decode vs
  | v => .error v.unexpected

/-- A list of values, or null for the empty one. -/
def listOrNull (decode : Decoder α) : Decoder (List α) := fun v =>
  (nullable (list decode) v).map (·.getD [])

end Decode

/-- **A field of a record.** -/
structure Field (α : Type) where
  /-- the key of the field -/
  name : String
  /-- how its value is read -/
  decode : Decoder α
  /-- what it is when it is left out; none where it must be given -/
  absent : Option α

namespace Field

/-- A field that must be given. -/
def required (name : String) (decode : Decoder α) : Field α := ⟨name, decode, none⟩

/-- A field that takes a default when it is left out. -/
def defaulting (name : String) (decode : Decoder α) (default : α) : Field α :=
  ⟨name, decode, some default⟩

/-- A field that may be left out or null. -/
def optional (name : String) (decode : Decoder α) : Field (Option α) :=
  ⟨name, Decode.nullable decode, some none⟩

/-- A list that may be left out or null. -/
def listing (name : String) (decode : Decoder α) : Field (List α) :=
  ⟨name, Decode.listOrNull decode, some []⟩

/-- The value of a field among the values given. -/
def get (f : Field α) (given : List (String × Json)) : Except Refusal α :=
  match given.lookup f.name, f.absent with
  | some v, _ => f.decode v
  | none, some x => .ok x
  | none, none => .error .mismatched

/-- The key of a field, and whether a value will do for it. -/
def check (f : Field α) : String × Decoder Unit := (f.name, fun v => (f.decode v).map fun _ => ())

end Field

namespace Decode

/-- The members of an object from left to right: a key that is known must not have been seen and
must have a fitting value; a value under any other key is passed over. -/
def members (layout : List (String × Decoder Unit)) (seen : List String) :
    List (String × Json) → Except Refusal (List (String × Json))
  | [] => .ok []
  | (_, .fault .noKey _) :: _ => .error .malformed
  | (_, .fault .unusableKey _) :: _ => .error .malformed
  | (key, value) :: rest =>
    match layout.lookup key with
    | none => do
      value.skip
      members layout seen rest
    | some check =>
      if key ∈ seen then .error .mismatched
      else do
        check value
        let given ← members layout (key :: seen) rest
        .ok ((key, value) :: given)

/-- The items of an array, each for the field in its place; there must not be more items than
fields. -/
def positions : List (String × Decoder Unit) → List Json → Except Refusal (List (String × Json))
  | _, [] => .ok []
  | [], _ :: _ => .error .malformed
  | (key, check) :: fields, value :: rest => do
    check value
    let given ← positions fields rest
    .ok ((key, value) :: given)

/-- **Record.** The values given for the fields of a layout. -/
def record (layout : List (String × Decoder Unit)) : Json → Except Refusal (List (String × Json))
  | .object ms => members layout [] ms
  | .array vs => positions layout vs
  | .fault _ _ => .error .malformed
  | v => .error v.unexpected

end Decode

end JudgeDesk
