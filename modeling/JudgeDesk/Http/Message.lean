import JudgeDesk.Text.Utf8
import JudgeDesk.Json.Basic

/-!
# Requests and responses

* `Http.Request` — what comes in;
* `Http.Response` — what goes out, and `Http.Response.missing` — that nothing does.
-/

namespace JudgeDesk.Http

/-- **What comes in.** -/
structure Request where
  /-- the method -/
  method : String
  /-- the address: a path, and maybe a query -/
  uri : String
  /-- the media type of the body -/
  contentType : Option String := none
  /-- the body -/
  body : Bytes := []

/-- The body of a response. -/
inductive ResponseBody where
  /-- nothing -/
  | empty
  /-- a document -/
  | document (value : Json)
  /-- a note for whoever wrote the client, in no fixed words -/
  | note

/-- **What goes out.** -/
structure Response where
  /-- the status -/
  status : Nat
  /-- the body -/
  body : ResponseBody := .empty

/-- **No response**: the connection is closed without one, for which there is no status. -/
def Response.missing : Response := { status := 0 }

end JudgeDesk.Http
