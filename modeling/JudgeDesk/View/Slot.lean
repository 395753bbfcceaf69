import JudgeDesk.Artifact.Basic

/-!
# Slots

A slot is the place of one artifact on the screen. It is empty until the artifact is asked for, and
holds what came of that afterwards. Slots that are shown together form a set behind one switch.

* `Slot`, `SlotState` — a slot and where it stands;
* `SlotSet` — the slots of a kind of artifacts;
* `toggle`, `request`, `fulfill` — what can happen to a set;
* `pending` — the artifacts that are shown but were never asked for.
-/

namespace JudgeDesk

/-- Where a slot stands. -/
inductive SlotState where
  /-- its artifact was never asked for -/
  | notFetched
  /-- its artifact is on the way -/
  | inFlight
  /-- its artifact is there -/
  | loaded
  /-- its artifact could not be had -/
  | failed
  deriving DecidableEq, Repr

/-- **A slot.** -/
structure Slot where
  /-- the artifact -/
  data : Option Resource := none
  /-- why the artifact could not be had -/
  error : Option String := none
  /-- whether the artifact was asked for -/
  requested : Bool := false
  deriving DecidableEq, Repr

namespace Slot

/-- **State of a slot.** A failure counts before a file, and either counts before a request. -/
def state (s : Slot) : SlotState :=
  match s.error, s.data with
  | some _, _ => .failed
  | none, some _ => .loaded
  | none, none => if s.requested then .inFlight else .notFetched

/-- A slot whose artifact is asked for. -/
def request (s : Slot) : Slot := { s with requested := true }

/-- A slot with what came of the request, in place of what was there. -/
def fulfill (s : Slot) : Outcome → Slot
  | .ok data => { s with data := some data, error := none }
  | .error message => { s with data := none, error := some message }

/-- A slot as a document. -/
def encode (s : Slot) : Json :=
  .ofMembers [
    Json.member? "data" Resource.encode s.data,
    Json.member? "error" .string s.error,
    Json.member "requested" (.bool s.requested)]

end Slot

/-- The name of a state in a document. -/
def SlotState.word : SlotState → String
  | .notFetched => "not_fetched"
  | .inFlight => "in_flight"
  | .loaded => "loaded"
  | .failed => "failed"

/-- **A set of slots** behind one switch, one slot for each artifact of a kind. -/
structure SlotSet (κ : Type) where
  /-- whether the slots are shown -/
  shown : Bool := false
  /-- the slot of an artifact -/
  slot : κ → Slot := fun _ => {}

namespace SlotSet

variable {κ : Type}

/-- **Toggling** shows the slots or hides them; nothing else changes. -/
def toggle (s : SlotSet κ) : SlotSet κ := { s with shown := !s.shown }

/-- A set in which one slot is changed. -/
def update [DecidableEq κ] (s : SlotSet κ) (k : κ) (f : Slot → Slot) : SlotSet κ :=
  { s with slot := fun k' => if k' = k then f (s.slot k') else s.slot k' }

/-- **Requesting**: an artifact is asked for. -/
def request [DecidableEq κ] (s : SlotSet κ) (k : κ) : SlotSet κ := s.update k Slot.request

/-- **Fulfilling**: something came of a request. -/
def fulfill [DecidableEq κ] (s : SlotSet κ) (k : κ) (outcome : Outcome) : SlotSet κ :=
  s.update k fun slot => slot.fulfill outcome

/-- Several artifacts are asked for. -/
def requestAll [DecidableEq κ] (s : SlotSet κ) (ks : List κ) : SlotSet κ := ks.foldl request s

variable [Artifact κ]

/-- **Pending artifacts**: those that are shown but were never asked for, in order. -/
def pending (s : SlotSet κ) : List κ :=
  if s.shown then Artifact.all.filter fun k => !(s.slot k).requested else []

/-- The artifacts with the states of their slots, in order. -/
def states (s : SlotSet κ) : List (κ × SlotState) :=
  Artifact.all.map fun k => (k, (s.slot k).state)

/-- The slots as a document. -/
def encodeSlots (s : SlotSet κ) : Json :=
  .object (Artifact.all.map fun k => (Artifact.key k, (s.slot k).encode))

/-- A set as a document. -/
def encode (s : SlotSet κ) : Json :=
  .object [("show", .bool s.shown), ("slots", s.encodeSlots)]

end SlotSet

end JudgeDesk
