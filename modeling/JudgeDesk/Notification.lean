import JudgeDesk.Timestamp
import JudgeDesk.Json.Basic

/-!
# Notifications

How a load or a save went is shown for a while and then disappears. Nothing can be raised at a time
from which its span leads beyond the calendar (`Timestamp.IsTellable`); here such an end is a number
like any other, and it is up to the settings that there is none.

* `Notification` — what is shown;
* `Notification.isActive` — whether it still is.
-/

namespace JudgeDesk

/-- **A notification.** -/
structure Notification where
  /-- whether it went well -/
  ok : Bool
  /-- what is said about it -/
  message : String
  /-- when it disappears -/
  expiresAt : Timestamp
  deriving DecidableEq, Repr

namespace Notification

/-- A notification of something that went well. -/
def success (message : String) (ttl : Duration) (now : Timestamp) : Notification :=
  { ok := true, message, expiresAt := now + ttl }

/-- A notification of something that failed. -/
def failure (message : String) (ttl : Duration) (now : Timestamp) : Notification :=
  { ok := false, message, expiresAt := now + ttl }

/-- **Active** is a notification before the moment when it disappears. -/
def isActive (n : Notification) (now : Timestamp) : Bool := now < n.expiresAt

/-- A notification as a document. -/
def encode (n : Notification) : Json :=
  .object [
    ("ok", .bool n.ok),
    ("message", .string n.message),
    ("expires_at", .string (Timestamp.text n.expiresAt))]

end Notification

end JudgeDesk
