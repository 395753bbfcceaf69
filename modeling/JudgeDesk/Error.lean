import JudgeDesk.TestGroup.Action
import JudgeDesk.Json.Basic
import JudgeDesk.Http.Status
import JudgeDesk.Sessions.Id

/-!
# Errors

An error is a cause; its wording is in one place.

* `IntentFault`, `FetchFault`, `InputFault`, `Absence` — the causes by kind;
* `Error` — all errors;
* `Error.message` — the wording;
* `Error.displayMessage` — the wording that may be shown to an operator;
* `Error.code`, `Error.status` — how an error is answered.

The judge's own wording of a failure is kept as it came, whatever it says.
-/

namespace JudgeDesk

/-- Why an intent is refused that names a field or an action. -/
inductive IntentFault where
  /-- there is no such field -/
  | unknownField (name : String)
  /-- the action needs a group to act on -/
  | missingIndex (action : GroupAction)
  /-- the group cannot require the groups of that name -/
  | ineligible (name : String) (index : Nat)
  /-- a cause given in words -/
  | stated (detail : String)
  deriving DecidableEq, Repr

/-- Why something could not be had from the judge. -/
inductive FetchFault where
  /-- the judge, or the way to it, failed with these words -/
  | reported (words : String)
  /-- the judge answered, but without what was asked for -/
  | emptyResponse
  /-- the answer could not be understood -/
  | unreadable (status : Nat)
  /-- the judge took a new problem but gave it no id -/
  | unassignedId
  deriving DecidableEq, Repr

/-- A number outside its range. -/
structure OutOfRange where
  /-- the name of the number -/
  name : String
  /-- the number -/
  value : Nat
  /-- the least number that is allowed -/
  least : Nat
  /-- the greatest number that is allowed, if there is one -/
  greatest : Option Nat
  deriving DecidableEq, Repr

/-- Why an input is refused. -/
inductive InputFault where
  /-- the editor has no problem to work on -/
  | notLoaded
  /-- the form does not say which problem is solved -/
  | missingProblemId
  /-- the id of the problem is no number -/
  | malformedProblemId
  /-- the form does not say which language is used -/
  | missingLanguage
  /-- the form has neither a file nor a text -/
  | missingSource
  /-- the form breaks off, or is no form, at the part of that name -/
  | unreadable (part : String)
  /-- some numbers are out of range -/
  | outOfRange (numbers : List OutOfRange)
  /-- a cause given in words -/
  | stated (detail : String)
  deriving DecidableEq, Repr

/-- What is not there. -/
inductive Absence where
  /-- no open session has this id -/
  | session (id : SessionId)
  /-- something given in words -/
  | stated (detail : String)
  deriving DecidableEq, Repr

/-- **Errors.** -/
inductive Error where
  /-- an intent that cannot be carried out -/
  | invalidIntent (fault : IntentFault)
  /-- an action on groups that there is not -/
  | invalidGroupAction (name : String)
  /-- a group that there is not -/
  | invalidIndex (index count : Nat)
  /-- a test that there is not -/
  | invalidTest (test count : Nat)
  /-- the judge did not give what was asked for -/
  | fetchFailed (fault : FetchFault)
  /-- an input that does not pass -/
  | invalidInput (fault : InputFault)
  /-- something that there is not -/
  | notFound (what : Absence)
  /-- a failure of the desk itself -/
  | internal
  /-- settings that do not work -/
  | configuration (detail : String)
  deriving DecidableEq, Repr

/-- The wording of a refused intent. -/
def IntentFault.message : IntentFault → String
  | .unknownField name => "unknown problem field " ++ Text.quoted name
  | .missingIndex action => "group action " ++ action.shown ++ " needs a group index"
  | .ineligible name index =>
    "group " ++ Text.quoted name ++ " can not be required by group " ++ Text.decimal index
  | .stated detail => detail

/-- The wording of a failure of the judge. -/
def FetchFault.message : FetchFault → String
  | .reported words => words
  | .emptyResponse => "judge API sent an empty response"
  | .unreadable status => "judge API returned " ++ Http.statusLine status
  | .unassignedId => "Judge did not assign a problem id"

/-- The wording of a number outside its range. -/
def OutOfRange.message (r : OutOfRange) : String :=
  let greatest := match r.greatest with
    | some n => "\"max\": Number(" ++ Text.decimal n ++ "), "
    | none => ""
  r.name ++ ": Validation error: range [\x7b" ++ greatest ++ "\"min\": Number(" ++
    Text.decimal r.least ++ "), \"value\": Number(" ++ Text.decimal r.value ++ ")\x7d]"

/-- The wording of a refused input. -/
def InputFault.message : InputFault → String
  | .notLoaded => "Problem is not loaded"
  | .missingProblemId => "problem_id is required"
  | .malformedProblemId => "problem_id must be a number"
  | .missingLanguage => "language is required"
  | .missingSource => "No source code"
  | .unreadable part =>
    "Failed to read " ++ part ++ ": Error parsing `multipart/form-data` request"
  | .outOfRange numbers => "\n".intercalate (numbers.map OutOfRange.message)
  | .stated detail => detail

/-- The wording of what is not there. -/
def Absence.message : Absence → String
  | .session id => "Session " ++ id.text ++ " not found"
  | .stated detail => detail

namespace Error

/-- **Wording.** -/
def message : Error → String
  | invalidIntent fault => "Invalid intent: " ++ fault.message
  | invalidGroupAction name => "Invalid group action: " ++ name
  | invalidIndex index count =>
    "Invalid group index " ++ Text.decimal index ++ ", problem has " ++ Text.decimal count ++
      " groups"
  | invalidTest test count =>
    "Invalid test " ++ Text.decimal test ++ ", submission has " ++ Text.decimal count ++ " tests"
  | fetchFailed fault => fault.message
  | invalidInput fault => "Validation error: " ++ fault.message
  | notFound what => "Not found: " ++ what.message
  | internal => "Internal server error"
  | configuration detail => "Configuration error: " ++ detail

/-- **Wording for the operator**, in a slot, a notification or an answer. A failure of the desk
itself is not explained. -/
def displayMessage : Error → String
  | internal => "An internal error occurred"
  | e => e.message

/-- The code of an error in an answer. -/
def code : Error → String
  | invalidIntent _ => "INVALID_INTENT"
  | invalidGroupAction _ => "INVALID_GROUP_ACTION"
  | invalidIndex _ _ => "INVALID_INDEX"
  | invalidTest _ _ => "INVALID_TEST_INDEX"
  | fetchFailed _ => "FETCH_FAILED"
  | invalidInput _ => "VALIDATION_ERROR"
  | notFound _ => "NOT_FOUND"
  | internal => "INTERNAL_ERROR"
  | configuration _ => "CONFIGURATION_ERROR"

/-- Whether the caller asked for something that the desk never offers. -/
def isIntentError : Error → Bool
  | invalidIntent _ => true
  | invalidGroupAction _ => true
  | invalidIndex _ _ => true
  | invalidTest _ _ => true
  | _ => false

/-- An error as a document. -/
def encode (e : Error) : Json :=
  .object [("error", .object [("code", .string e.code), ("message", .string e.displayMessage)])]

/-- The status with which an error is answered. -/
def status : Error → Nat
  | invalidIntent _ => 400
  | invalidGroupAction _ => 400
  | invalidIndex _ _ => 400
  | invalidTest _ _ => 400
  | fetchFailed _ => 502
  | invalidInput _ => 400
  | notFound _ => 404
  | internal => 500
  | configuration _ => 500

end Error

end JudgeDesk
