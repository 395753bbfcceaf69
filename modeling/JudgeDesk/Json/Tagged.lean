import JudgeDesk.Json.Record

/-!
# Tagged values

A value of several kinds says its kind first: in the member `kind` of an object, wherever that
member stands, or in the first item of an array. The rest of the value is the record of that kind.
As the kind may come last, the whole text is taken in before the record is looked at, and nothing
that is wrong with the record is a fault of the text.

* `tagged` — the kind and the record of a value;
* `unitRecord` — the record of a kind without fields.
-/

namespace JudgeDesk.Decode

/-- The key under which an object gives its kind. -/
def kindKey : String := "kind"

/-- The kind of a value, by its name. -/
def kindOf (ofName? : String → Option κ) : Decoder κ := fun v => do
  let name ← text v
  match ofName? name with
  | some kind => .ok kind
  | none => .error .mismatched

/-- The members of an object without its kind, and the kind; there must be exactly one. -/
def taggedMembers (ofName? : String → Option κ) (kind : Option κ) :
    List (String × Json) → Except Refusal (κ × List (String × Json))
  | [] =>
    match kind with
    | some kind => .ok (kind, [])
    | none => .error .mismatched
  | (_, .fault .noKey _) :: _ => .error .malformed
  | (_, .fault .unusableKey _) :: _ => .error .malformed
  | (key, value) :: rest =>
    if key = kindKey then
      match kind with
      | some _ => .error .mismatched
      | none => do
        let kind ← kindOf ofName? value
        taggedMembers ofName? (some kind) rest
    else do
      let _ ← value.keep
      let (kind, given) ← taggedMembers ofName? kind rest
      .ok (kind, (key, value) :: given)

/-- **Kind and record** of a value. -/
def tagged (ofName? : String → Option κ) : Json → Except Refusal (κ × Json)
  | .object ms => do
    let (kind, given) ← taggedMembers ofName? none ms
    .ok (kind, .object given)
  | .array [] => .error .mismatched
  | .array (v :: vs) => do
    let kind ← kindOf ofName? v
    let _ ← (Json.array vs).keep
    .ok (kind, .array vs)
  | v => .error v.unexpected

/-- The record of a kind without fields: an empty array, or an object of which nothing matters. -/
def unitRecord : Decoder Unit
  | .array (_ :: _) => .error .mismatched
  | _ => .ok ()

/-- The record of a kind, which was taken in as a whole: what is wrong with it is its shape. -/
def recordOf (decode : Decoder α) : Decoder α := fun v =>
  match decode v with
  | .ok x => .ok x
  | .error _ => .error .mismatched

end JudgeDesk.Decode
