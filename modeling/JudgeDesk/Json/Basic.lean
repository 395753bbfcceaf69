import JudgeDesk.Binary64.Basic

/-!
# Documents

The judge and the view layer both speak JSON. A document is kept as a tree, its members in the
order in which they stand, a repeated key repeated. A text that is no well-formed document is a
tree as well: reading puts a *fault* where it stops or where it finds something that may be passed
over but not used. Whoever decodes the tree then meets the first error of the text in reading
order, be it a fault or a value of the wrong kind.

* `Json` — the tree; `Fault` — what can be wrong with a place of a text;
* `Refusal` — the two ways in which decoding fails;
* `unexpected` — which of the two a value is, where another kind of value is wanted;
* `skip` — passing over a value that nobody wants;
* `keep` — taking a value as it stands.
-/

namespace JudgeDesk

/-- What is wrong with a place of a text. -/
inductive Fault where
  /-- nothing can be read from here on -/
  | cut
  /-- nothing can be read from here on, and there is no key -/
  | noKey
  /-- the key of this member can be passed over but not used -/
  | unusableKey
  /-- the value can be passed over but not used: it holds half of a surrogate pair, or it is a
  number out of range, or it is nested too deeply -/
  | unusable
  deriving DecidableEq, Repr

/-- **A document**, or what a text holds in place of one. -/
inductive Json where
  /-- the null value -/
  | null
  /-- a truth value -/
  | bool (value : Bool)
  /-- a whole number, written without a fraction and an exponent -/
  | int (value : Int)
  /-- any other number -/
  | real (value : Binary64)
  /-- a string -/
  | string (value : String)
  /-- an array -/
  | array (items : List Json)
  /-- an object, with its members in the order in which they stand -/
  | object (members : List (String × Json))
  /-- a fault, with what there is to pass over -/
  | fault (fault : Fault) (value : Json)
  deriving Inhabited

/-- **Why decoding fails.** -/
inductive Refusal where
  /-- the text is no well-formed document -/
  | malformed
  /-- the document does not have the shape that is wanted -/
  | mismatched
  deriving DecidableEq, Repr

/-- A reading of documents as values of a type. -/
abbrev Decoder (α : Type) := Json → Except Refusal α

namespace Json

/-- Arrays and objects. -/
def isContainer : Json → Bool
  | array _ => true
  | object _ => true
  | _ => false

/-- **Wrong kind.** Where a value of another kind is wanted, an array or an object is refused at
its opening bracket, and everything else once it has been read. -/
def unexpected : Json → Refusal
  | fault .unusable value => if value.isContainer then .mismatched else .malformed
  | fault _ _ => .malformed
  | _ => .mismatched

mutual

/-- **Passing over.** Only a text that breaks off stands in the way. -/
def canSkip : Json → Bool
  | array items => canSkipAll items
  | object members => canSkipMembers members
  | fault .cut _ => false
  | fault .noKey _ => false
  | fault _ value => canSkip value
  | _ => true

/-- Passing over all items of an array. -/
def canSkipAll : List Json → Bool
  | [] => true
  | v :: rest => canSkip v && canSkipAll rest

/-- Passing over all members of an object. -/
def canSkipMembers : List (String × Json) → Bool
  | [] => true
  | (_, v) :: rest => canSkip v && canSkipMembers rest

end

mutual

/-- **Taking as it stands.** Every fault stands in the way. -/
def canKeep : Json → Bool
  | array items => canKeepAll items
  | object members => canKeepMembers members
  | fault _ _ => false
  | _ => true

/-- Taking all items of an array. -/
def canKeepAll : List Json → Bool
  | [] => true
  | v :: rest => canKeep v && canKeepAll rest

/-- Taking all members of an object. -/
def canKeepMembers : List (String × Json) → Bool
  | [] => true
  | (_, v) :: rest => canKeep v && canKeepMembers rest

end

/-- The members of an object after one more: a key that is there already keeps its place and takes
the new value. -/
def setMember (key : String) (value : Json) : List (String × Json) → List (String × Json)
  | [] => [(key, value)]
  | (k, v) :: rest => if k = key then (key, value) :: rest else (k, v) :: setMember key value rest

mutual

/-- A document in which no key repeats: the last value of a repeated key is the one that counts. -/
def settled : Json → Json
  | array items => array (settledAll items)
  | object members => object (settledMembers [] members)
  | v => v

/-- Settling all items of an array. -/
def settledAll : List Json → List Json
  | [] => []
  | v :: rest => settled v :: settledAll rest

/-- Settling all members of an object, after those of `done`. -/
def settledMembers (done : List (String × Json)) : List (String × Json) → List (String × Json)
  | [] => done
  | (k, v) :: rest => settledMembers (setMember k (settled v) done) rest

end

/-- Decodes nothing and passes over the value. -/
def skip : Decoder Unit := fun v => if v.canSkip then .ok () else .error .malformed

/-- **Any document**, with repeated keys settled. -/
def keep : Decoder Json := fun v => if v.canKeep then .ok v.settled else .error .malformed

/-! ### Writing values -/

/-- A number with a fraction. What is no number has no place in a document and is written as
null. -/
def ofReal (x : Binary64) : Json := if x.isFinite then real x else null

/-- A whole number of sixty-four bits. -/
def ofUInt64 (n : UInt64) : Json := int n.toNat

/-- A whole number without a bound. -/
def ofNat (n : Nat) : Json := int n

/-- A list of values. -/
def ofList (write : α → Json) (xs : List α) : Json := array (xs.map write)

/-- A member that is always written. -/
def member (key : String) (value : Json) : Option (String × Json) := some (key, value)

/-- A member that is left out when there is no value. -/
def member? (key : String) (write : α → Json) (value : Option α) : Option (String × Json) :=
  value.map fun x => (key, write x)

/-- An object of the members that are there. -/
def ofMembers (members : List (Option (String × Json))) : Json := object (members.filterMap id)

end Json

end JudgeDesk
