import JudgeDesk.Log.Level
import JudgeDesk.Http.Uri

/-!
# The access log

Every request is logged once it has been answered, with the session that it was for. Probes of
health come often and matter little.

* `AccessEvent` — what is logged;
* `AccessEvent.of` — the event of a request with its status;
* `sessionOf?` — the session that a path is for.
-/

namespace JudgeDesk

/-- **What is logged** of a request. -/
structure AccessEvent where
  /-- how much it matters -/
  level : Level
  /-- what is said -/
  message : String
  /-- the method -/
  method : String
  /-- the path -/
  path : String
  /-- the session that it was for -/
  session : Option String := none
  /-- the status of the answer -/
  status : Nat
  deriving DecidableEq, Repr

/-- The path under which all resources of the desk are. -/
def basePath : String := "/api/v1"

/-- A list without another one at its start, if it has it there. -/
def withoutStart (start cs : List Char) : List Char :=
  if start.isPrefixOf cs then cs.drop start.length else cs

/-- **The session of a path**: the segment after the word for editors or viewers. -/
def sessionOf? (path : String) : Option String :=
  let rest := withoutStart basePath.toList path.toList
  match Http.segments (rest.dropWhile (· = '/')) with
  | "editors" :: id :: _ => if id = "" then none else some id
  | "viewers" :: id :: _ => if id = "" then none else some id
  | _ => none

namespace AccessEvent

/-- Whether a path is for probing health. -/
def isProbe (path : String) : Bool := "/health".toList.isSuffixOf path.toList

/-- **The event** of a request. Failures of the desk and rejected requests are warnings; that
something is not there is nothing to warn of. -/
def of (method path : String) (status : Nat) : AccessEvent :=
  if isProbe path then { level := .debug, message := "Health probe", method, path, status }
  else
    let session := sessionOf? path
    if 500 ≤ status ∧ status < 600 then
      { level := .warn, message := "Request failed", method, path, session, status }
    else if 400 ≤ status ∧ status < 500 ∧ status ≠ 404 then
      { level := .warn, message := "Request rejected", method, path, session, status }
    else { level := .info, message := "Request completed", method, path, session, status }

end AccessEvent

end JudgeDesk
