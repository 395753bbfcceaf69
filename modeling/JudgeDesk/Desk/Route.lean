import JudgeDesk.Desk.Request
import JudgeDesk.Http.MediaType
import JudgeDesk.Http.Message
import JudgeDesk.Http.Multipart
import JudgeDesk.Http.Uri
import JudgeDesk.Json.Reader
import JudgeDesk.Log.Access

/-!
# Routes

A request over HTTP is for a resource, and the method says what is to be done with it.

* `Route`, `Route.ofPath?` — the resources and their paths;
* `Reading` — what becomes of a request before the desk sees it;
* `Route.read?` — the request that a method makes of a resource;
* `Reading.of` — the reading of a whole request.

What is in the path is read before what is in the body.
-/

namespace JudgeDesk

/-- **A resource**, with the ids in its path as they were written. -/
inductive Route where
  /-- how the desk is -/
  | health
  /-- all problems -/
  | problems
  /-- editors for new problems -/
  | newEditors
  /-- editors on a problem -/
  | problemEditors (id : String)
  /-- an editor -/
  | editor (id : String)
  /-- what is done in an editor -/
  | editorIntents (id : String)
  /-- saving what is in an editor -/
  | editorSave (id : String)
  /-- all submissions -/
  | submissions
  /-- viewers on a submission -/
  | submissionViewers (id : String)
  /-- a viewer -/
  | viewer (id : String)
  /-- what is done in a viewer -/
  | viewerIntents (id : String)
  /-- how the judge is -/
  | masterStatus
  /-- what the invokers have kept -/
  | cacheReset
  deriving DecidableEq, Repr

namespace Route

/-- The resource of the segments after the base path. -/
def ofSegments? : List String → Option Route
  | ["health"] => some .health
  | ["problems"] => some .problems
  | ["problems", "editors"] => some .newEditors
  | ["problems", id, "editors"] => if id = "" then none else some (.problemEditors id)
  | ["editors", id] => if id = "" then none else some (.editor id)
  | ["editors", id, "intents"] => if id = "" then none else some (.editorIntents id)
  | ["editors", id, "save"] => if id = "" then none else some (.editorSave id)
  | ["submissions"] => some .submissions
  | ["submissions", id, "viewers"] => if id = "" then none else some (.submissionViewers id)
  | ["viewers", id] => if id = "" then none else some (.viewer id)
  | ["viewers", id, "intents"] => if id = "" then none else some (.viewerIntents id)
  | ["admin", "status"] => some .masterStatus
  | ["admin", "invoker-cache", "reset"] => some .cacheReset
  | _ => none

/-- **The resource of a path.** Segments are compared as they are written. -/
def ofPath? (path : String) : Option Route :=
  let base := basePath.toList ++ ['/']
  if base.isPrefixOf path.toList then
    ofSegments? (Http.segments (path.toList.drop base.length))
  else none

end Route

/-- **What becomes of a request** before the desk sees it. -/
inductive Reading where
  /-- it is understood -/
  | understood (request : Request)
  /-- it is understood, but cannot be served -/
  | failed (error : Error)
  /-- it is not understood -/
  | rejected (status : Nat)
  /-- there is no such resource -/
  | noResource
  /-- the resource does not know the method -/
  | noMethod

namespace Reading

/-! ### Parts of a request -/

/-- The text of an id in a path, which may have escapes; it has to be a text. -/
def pathText? (segment : String) : Option String :=
  let bs := Http.percentDecoded (Text.bytes segment)
  let s := Text.lossy bs
  if Text.bytes s = bs then some s else none

/-- A request with the number in its path. -/
def withNumber (segment : String) (f : UInt64 → Reading) : Reading :=
  match (pathText? segment).bind Text.uint64? with
  | some id => f id
  | none => .rejected 400

/-- A request with the session in its path. -/
def withSession (segment : String) (f : SessionId → Reading) : Reading :=
  match (pathText? segment).bind SessionId.ofText? with
  | some id => f id
  | none => .rejected 400

/-- A request with what its query says. -/
def withQuery (r : Http.Request) (read? : Http.Query → Option α) (f : α → Reading) : Reading :=
  match read? (Http.Query.ofText (Http.queryOf r.uri)) with
  | some x => f x
  | none => .rejected 400

/-- The media type of a request, if it has one. -/
def mediaType? (r : Http.Request) : Option Http.MediaType :=
  r.contentType.bind Http.MediaType.ofText?

/-- The document in the body of a request. -/
def document (decode : Decoder α) (body : Bytes) : Except Refusal α :=
  let text := Text.lossy body
  if Text.bytes text = body then Json.decodeText decode text else .error .malformed

/-- **A request with a document.** It has to say that it carries one; a text that is none and a
document of another shape are told apart. -/
def withDocument (r : Http.Request) (decode : Decoder α) (f : α → Reading) : Reading :=
  if !(mediaType? r).any (·.isJson) then .rejected 415
  else
    match document decode r.body with
    | .ok x => f x
    | .error .malformed => .rejected 400
    | .error .mismatched => .rejected 422

/-- The names of parts whose content is read when they come; the content of any other part is
passed over later. -/
def readNames : List String :=
  [SolutionForm.fileName, SolutionForm.textName, SolutionForm.languageName,
    SolutionForm.problemIdName]

/-- The part at which a form that breaks off cannot be read, if it does. -/
def brokenAt? : Http.FormEnd → Option String
  | .closed => none
  | .broken => some "multipart"
  | .brokenIn name => some (if readNames.contains name then name else "multipart")

/-- **A request with a form.** It has to say what separates the parts. -/
def withForm (r : Http.Request) (f : SolutionForm → Reading) : Reading :=
  match (mediaType? r).bind (·.boundary?) with
  | none => .rejected 400
  | some boundary =>
    let (parts, ending) := Http.Multipart.read boundary r.body
    match brokenAt? ending with
    | none => f (SolutionForm.ofParts parts)
    | some name => .failed (.invalidInput (.unreadable name))

end Reading

/-! ### Whole requests -/

/-- What a method makes of a resource, if the resource knows it. -/
def Route.read? (r : Http.Request) (method : String) : Route → Option Reading
  | .health => if method = "GET" then some (.understood .health) else none
  | .problems =>
    if method = "GET" then
      some (Reading.withQuery r Paging.ofQuery? fun p => .understood (.listProblems p))
    else none
  | .newEditors => if method = "POST" then some (.understood (.openEditor none)) else none
  | .problemEditors id =>
    if method = "POST" then
      some (Reading.withNumber id fun n => .understood (.openEditor (some n)))
    else none
  | .editor id =>
    if method = "GET" then some (Reading.withSession id fun s => .understood (.showEditor s))
    else if method = "DELETE" then
      some (Reading.withSession id fun s => .understood (.closeEditor s))
    else none
  | .editorIntents id =>
    if method = "POST" then
      some (Reading.withSession id fun s =>
        Reading.withDocument r EditorRequest.decode fun intent => .understood (.edit s intent))
    else none
  | .editorSave id =>
    if method = "POST" then some (Reading.withSession id fun s => .understood (.save s)) else none
  | .submissions =>
    if method = "GET" then
      some (Reading.withQuery r Filter.ofQuery? fun f => .understood (.listSubmissions f))
    else if method = "POST" then some (Reading.withForm r fun f => .understood (.submit f))
    else none
  | .submissionViewers id =>
    if method = "POST" then some (Reading.withNumber id fun n => .understood (.openViewer n))
    else none
  | .viewer id =>
    if method = "GET" then some (Reading.withSession id fun s => .understood (.showViewer s))
    else if method = "DELETE" then
      some (Reading.withSession id fun s => .understood (.closeViewer s))
    else none
  | .viewerIntents id =>
    if method = "POST" then
      some (Reading.withSession id fun s =>
        Reading.withDocument r ViewerRequest.decode fun intent => .understood (.view s intent))
    else none
  | .masterStatus => if method = "GET" then some (.understood .masterStatus) else none
  | .cacheReset => if method = "POST" then some (.understood .resetInvokerCache) else none

/-- The method by which a resource is read that is asked for its headers only. -/
def effectiveMethod (method : String) : String := if method = "HEAD" then "GET" else method

/-- **Reading a request.** -/
def Reading.of (r : Http.Request) : Reading :=
  match Route.ofPath? (Http.pathOf r.uri) with
  | none => .noResource
  | some route => (route.read? r (effectiveMethod r.method)).getD .noMethod

end JudgeDesk
