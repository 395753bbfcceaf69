import JudgeDesk.Judge.Message
import JudgeDesk.Proofs.Json.Members

/-!
# Errors that the judge reports

The judge reports a failure in the envelope of its reply, where a payload may stand beside the
error. The envelope is decoded as a whole, payload included, before anybody looks at the error. So
the error is told in the words of the judge exactly if the payload beside it can be read; otherwise
the words are lost, and all that is told is that the reply could not be read.

* `Envelope.Reports` — an object that reports an error, in the place of an envelope;
* `Envelope.decode_of_reports`, `Envelope.exists_decode_eq_error` — it is decoded if its payload can
  be read, and not otherwise;
* `Call.payload`, `Call.ofEnvelope_eq` — how the reply to a call is read, in two steps;
* `Call.ofReply_of_reports` — what is told of a reply that reports an error;
* `Call.not_reported_emptyPayload` — an error whose words are lost.
-/

namespace JudgeDesk

/-- The value that is looked up for a field fits it. -/
theorem Field.fits_of_get {α : Type} {f : Field α} {ms : List (String × Json)} {x : α}
    (honce : (ms.map Prod.fst).count f.name ≤ 1) (hget : f.get ms = .ok x) {m : String × Json}
    (hm : m ∈ ms) (hkey : m.1 = f.name) : f.check.2 m.2 = .ok () := by
  have hlookup : ms.lookup f.name = some m.2 := lookup_of_count_le_one honce (hkey ▸ hm)
  have hdecode : f.decode m.2 = .ok x := by
    simpa only [Field.get, hlookup] using hget
  change (f.decode m.2).map (fun _ => ()) = .ok ()
  rw [hdecode]
  rfl

/-! ### Envelopes -/

namespace Envelope

/-- **An object that reports an error**, with these words under the key of the error. There is at
most one payload, and whatever else there is can be passed over. -/
structure Reports (ms : List (String × Json)) (words : String) : Prop where
  /-- every member has a key that can be used -/
  keys : ∀ m ∈ ms, m.2.hasKey = true
  /-- every value is well-formed -/
  values : ∀ m ∈ ms, m.2.canSkip = true
  /-- the error is there -/
  error : ("error", .string words) ∈ ms
  /-- there is no other error -/
  oneError : (ms.map Prod.fst).count "error" ≤ 1
  /-- there is at most one payload -/
  onePayload : (ms.map Prod.fst).count "response" ≤ 1

variable {α : Type} {payload : Decoder α} {ms : List (String × Json)} {words : String}

/-- The fields of an envelope. -/
def layout (payload : Decoder α) : List (String × Decoder Unit) :=
  [errorField.check, (responseField payload).check]

/-- An envelope has fields for two keys, that of the error and that of the payload. -/
theorem lookup_layout_cases {key : String} {check : Decoder Unit}
    (h : (layout payload).lookup key = some check) :
    (key = "error" ∧ check = errorField.check.2) ∨
      (key = "response" ∧ check = (responseField payload).check.2) := by
  obtain ⟨front, back, hlayout, -⟩ := List.lookup_eq_some_iff.mp h
  have hmem : (key, check) ∈ layout payload := by
    rw [hlayout]
    exact List.mem_append_right _ List.mem_cons_self
  rcases List.mem_cons.mp hmem with heq | hmem
  · exact .inl (Prod.mk.inj heq)
  · exact .inr (Prod.mk.inj (List.mem_singleton.mp hmem))

/-- A field of the envelope has the same value among the members that are taken. -/
theorem get_filter_known {β : Type} (f : Field β) (payload : Decoder α)
    (hknown : Decode.known (layout payload) f.name = true) (ms : List (String × Json)) :
    f.get (ms.filter fun m => Decode.known (layout payload) m.1) = f.get ms := by
  rw [Field.get, Field.get, lookup_filter hknown]

theorem Reports.get_error (h : Reports ms words) : errorField.get ms = .ok (some words) := by
  have hlookup : ms.lookup "error" = some (.string words) :=
    lookup_of_count_le_one h.oneError h.error
  rw [Field.get, errorField, Field.optional, hlookup]
  rfl

/-- **If the payload can be read, the envelope has the error.** -/
theorem decode_of_reports (h : Reports ms words) {response : Option α}
    (hresponse : (responseField payload).get ms = .ok response) :
    decode payload (.object ms) = .ok { error := some words, response } := by
  have htaken : Decode.record (layout payload) (.object ms) =
      .ok (ms.filter fun m => Decode.known (layout payload) m.1) := by
    refine Decode.members_eq_filter h.keys (fun m hm _ => h.values m hm)
      (fun m hm check hlookup => ?_) (fun key hknown => ?_) fun _ _ _ => List.not_mem_nil
    · rcases lookup_layout_cases hlookup with ⟨hkey, rfl⟩ | ⟨hkey, rfl⟩
      · exact Field.fits_of_get h.oneError h.get_error hm hkey
      · exact Field.fits_of_get h.onePayload hresponse hm hkey
    · obtain ⟨check, hlookup⟩ := Option.isSome_iff_exists.mp hknown
      rcases lookup_layout_cases hlookup with ⟨rfl, -⟩ | ⟨rfl, -⟩
      · exact h.oneError
      · exact h.onePayload
  have herror := get_filter_known errorField payload rfl ms
  have hpayload := get_filter_known (responseField payload) payload rfl ms
  rw [decode, ← layout, htaken, ok_bind, herror, h.get_error, ok_bind, hpayload, hresponse]
  rfl

/-- **If the payload cannot be read, nor can the envelope**, whatever error it has. -/
theorem exists_decode_eq_error {err : Refusal}
    (hresponse : (responseField payload).get ms = .error err) :
    ∃ err', decode payload (.object ms) = .error err' := by
  rcases hdecode : decode payload (.object ms) with err' | e
  · exact ⟨err', rfl⟩
  · rw [decode] at hdecode
    obtain ⟨given, hrecord, h⟩ := bind_eq_ok.mp hdecode
    obtain ⟨error, -, h⟩ := bind_eq_ok.mp h
    obtain ⟨response, hgiven, -⟩ := bind_eq_ok.mp h
    obtain rfl := Decode.eq_filter_of_members hrecord
    have hpayload := get_filter_known (responseField payload) payload rfl ms
    rw [layout, hgiven, hresponse] at hpayload
    cases hpayload

end Envelope

/-! ### Replies -/

namespace Call

/-- What the payload of the reply to a call is read as. -/
abbrev Payload : Call → Type
  | .getProblem _ => Problem
  | .createProblem _ => Problem
  | .modifyProblem _ _ => Json
  | .listProblems _ _ => List ProblemSummary
  | .getSubmission _ => Submission
  | .listSubmissions _ _ => List SubmissionSummary
  | .submit _ => UInt64
  | .fetchResource _ => Resource
  | .masterStatus => Json
  | .resetInvokerCache => Json

/-- **How the payload is read** of the reply to a call. -/
def payload : (c : Call) → Decoder c.Payload
  | .getProblem _ => Problem.decode
  | .createProblem _ => Problem.decode
  | .modifyProblem _ _ => Json.keep
  | .listProblems _ _ => Decode.list ProblemSummary.decode
  | .getSubmission _ => Submission.decode
  | .listSubmissions _ _ => Decode.list SubmissionSummary.decode
  | .submit _ => submissionId
  | .fetchResource _ => Resource.decode
  | .masterStatus => Json.keep
  | .resetInvokerCache => Json.keep

/-- What is taken out of the envelope of the reply to a call. -/
def taken : (c : Call) → Envelope c.Payload → c.Answer
  | .getProblem _, e => e.result
  | .createProblem _, e => e.result
  | .modifyProblem _ _, e => e.acknowledged
  | .listProblems _ _, e => e.optional.map (·.getD [])
  | .getSubmission _, e => e.result
  | .listSubmissions _ _, e => e.optional.map (·.getD [])
  | .submit _, e => e.result
  | .fetchResource _, e => e.result
  | .masterStatus, e => e.result
  | .resetInvokerCache, e => e.acknowledged

/-- A reply is read in two steps. -/
theorem ofEnvelope_eq (c : Call) (v : Json) :
    c.ofEnvelope v = (Envelope.decode c.payload v).map c.taken := by
  cases c <;> rfl

/-- **An error is taken out of an envelope** whatever payload there is. -/
theorem taken_of_error (c : Call) (words : String) (response : Option c.Payload) :
    c.taken { error := some words, response } = .error (.fetchFailed (.reported words)) := by
  cases c <;> rfl

/-- **What is told of a reply that reports an error**: its words, if the payload beside it can be
read, and otherwise only that the reply could not be read. -/
theorem ofReply_of_reports (c : Call) {status : Nat} (hstatus : Http.hasBody status = true)
    {body : String} {ms : List (String × Json)} (hbody : Json.read body = (.object ms, true))
    {words : String} (hreports : Envelope.Reports ms words) :
    c.ofReply status body = .error (.fetchFailed
      (if ((Envelope.responseField c.payload).get ms).isOk then .reported words
        else .unreadable status)) := by
  simp only [ofReply, hstatus, if_true, Json.decodeText, hbody, ofEnvelope_eq]
  rcases hresponse : (Envelope.responseField c.payload).get ms with err | response
  · obtain ⟨err', hdecode⟩ := Envelope.exists_decode_eq_error hresponse
    rw [hdecode]
    rfl
  · rw [Envelope.decode_of_reports hreports hresponse]
    exact c.taken_of_error words response

/-- A reply with an error and a part of the file that was asked for. -/
def partialReply : String :=
  "\x7b\"ok\":false,\"error\":\"Output is gone\",\"response\":\x7b\"data\":\"1 2\"\x7d\x7d"

/-- What stands in it. -/
def partialMembers : List (String × Json) :=
  [("ok", .bool false), ("error", .string "Output is gone"),
    ("response", .object [("data", .string "1 2")])]

theorem ofReply_partialReply :
    Json.read partialReply = (.object partialMembers, true) ∧
      Envelope.Reports partialMembers "Output is gone" ∧
      ofReply (.fetchResource (.submissionTest 3 2 .output)) 404 partialReply =
        .error (.fetchFailed (.reported "Output is gone")) := by
  have hread : Json.read partialReply = (.object partialMembers, true) := by
    simp [partialReply, partialMembers, Json.read, Json.value, Json.members, Json.membersFrom,
      Json.skipSpace, Json.isSpace, Json.scanText, Json.scanString, Json.joinUnits, Json.scanWord,
      Json.nested, Json.maxDepth]
  have hreports : Envelope.Reports partialMembers "Output is gone" :=
    ⟨by decide, by decide, .tail _ (.head _), by decide, by decide⟩
  refine ⟨hread, hreports, ?_⟩
  exact ofReply_of_reports (.fetchResource (.submissionTest 3 2 .output)) rfl hread hreports

/-- A reply with an error and an empty object in place of a submission. -/
def emptyPayload : String :=
  "\x7b\"error\":\"Submission 3 is hidden\",\"response\":\x7b\x7d\x7d"

/-- What stands in it. -/
def emptyPayloadMembers : List (String × Json) :=
  [("error", .string "Submission 3 is hidden"), ("response", .object [])]

/-- The words of the judge are lost, as an empty object is no submission. -/
theorem not_reported_emptyPayload :
    Json.read emptyPayload = (.object emptyPayloadMembers, true) ∧
      Envelope.Reports emptyPayloadMembers "Submission 3 is hidden" ∧
      ofReply (.getSubmission 3) 200 emptyPayload = .error (.fetchFailed (.unreadable 200)) ∧
      ofReply (.getSubmission 3) 200 emptyPayload ≠
        .error (.fetchFailed (.reported "Submission 3 is hidden")) := by
  have hread : Json.read emptyPayload = (.object emptyPayloadMembers, true) := by
    simp [emptyPayload, emptyPayloadMembers, Json.read, Json.value, Json.members, Json.membersFrom,
      Json.skipSpace, Json.isSpace, Json.scanText, Json.scanString, Json.joinUnits, Json.nested,
      Json.maxDepth]
  have hlost : ofReply (.getSubmission 3) 200 emptyPayload =
      .error (.fetchFailed (.unreadable 200)) := by decide +kernel
  refine ⟨hread, ⟨by decide, by decide, .head _, by decide, by decide⟩, hlost, ?_⟩
  rw [hlost]
  intro hsame
  cases hsame

end Call

end JudgeDesk
