import JudgeDesk.Artifact.Basic
import JudgeDesk.Submission.Document
import JudgeDesk.Proofs.Json.Finite

/-!
# Submissions and files written and read back

A document says all there is to say about a submission whose points are finite, and about its parts.
Points that are not finite are written as null, and that is no number of points; they cannot come
out of a document.

* `Resource.decode_encode`, `CompilationResult.decode_encode` — without points every value is read
  back;
* `TestResult.decode_encode`, `GroupResult.decode_encode`, `SubmissionSummary.decode_encode`,
  `Submission.decode_encode` — with points it is if they are finite;
* `TestResult.yields_finitePoints`, `Submission.finitePoints_of_decode` and so on — what comes out
  of a document has finite points.
-/

namespace JudgeDesk

open Json (reads_string reads_ofUInt64 reads_ofReal reads_bool)

/-! ### Values -/

theorem Json.reads_ofInt32 (n : Int32) : Reads Decode.int32 (.ofInt32 n) n := by
  refine ⟨?_, rfl⟩
  have hrange : -0x80000000 ≤ n.toInt ∧ n.toInt < 0x80000000 := ⟨n.le_toInt, n.toInt_lt⟩
  rw [Decode.int32, ofInt32, Decode.integer, if_pos hrange]
  exact congrArg Except.ok n.ofInt_toInt

theorem Verdict.reads_encode (v : Verdict) : Json.Reads decode v.encode v := by
  refine ⟨?_, rfl⟩
  rw [encode, decode, ofWord, ofWord?_word]

open Json (reads_ofInt32)
open Verdict (reads_encode)

/-! ### Files -/

namespace Resource

theorem decode_eq_ok_iff {v : Json} {r : Resource} : decode v = .ok r ↔
    ∃ given, Decode.record layout v = .ok given ∧ dataField.get given = .ok r.data ∧
      filenameField.get given = .ok r.filename ∧ sizeField.get given = .ok r.size := by
  simp only [decode, bind_eq_ok]
  constructor
  · rintro ⟨given, hrecord, data, hdata, filename, hfilename, size, hsize, h⟩
    obtain rfl := Except.ok.inj h
    exact ⟨given, hrecord, hdata, hfilename, hsize⟩
  · rintro ⟨given, hrecord, hdata, hfilename, hsize⟩
    exact ⟨given, hrecord, _, hdata, _, hfilename, _, hsize, rfl⟩

/-- The fields of a file with the members that are written for them. -/
def entries (r : Resource) : List Entry :=
  [.written dataField (reads_string r.data),
    .optional "filename" reads_string r.filename,
    .optional "size" reads_ofUInt64 r.size]

theorem nodup_layout : (layout.map Prod.fst).Nodup := by decide

/-- **A file is read back as it was written.** -/
theorem decode_encode (r : Resource) : decode r.encode = .ok r :=
  decode_eq_ok_iff.mpr (Entry.exists_given r.entries nodup_layout)

end Resource

/-! ### Results of tests -/

namespace TestResult

variable {r : TestResult}

/-- **A result of a test is read field by field.** -/
theorem decode_eq_ok_iff {v : Json} : decode v = .ok r ↔
    ∃ given, Decode.record layout v = .ok given ∧
      testNumberField.get given = .ok r.testNumber ∧ verdictField.get given = .ok r.verdict ∧
      pointsField.get given = .ok r.points ∧ timeField.get given = .ok r.time ∧
      memoryField.get given = .ok r.memory ∧ wallTimeField.get given = .ok r.wallTime ∧
      exitCodeField.get given = .ok r.exitCode ∧ errorField.get given = .ok r.error := by
  simp only [decode, bind_eq_ok]
  constructor
  · rintro ⟨given, hrecord, testNumber, hnumber, verdict, hverdict, points, hpoints, time, htime,
      memory, hmemory, wallTime, hwall, exitCode, hexit, error, herror, h⟩
    obtain rfl := Except.ok.inj h
    exact ⟨given, hrecord, hnumber, hverdict, hpoints, htime, hmemory, hwall, hexit, herror⟩
  · rintro ⟨given, hrecord, hnumber, hverdict, hpoints, htime, hmemory, hwall, hexit, herror⟩
    exact ⟨given, hrecord, _, hnumber, _, hverdict, _, hpoints, _, htime, _, hmemory, _, hwall,
      _, hexit, _, herror, rfl⟩

/-- **Whether the points are finite**, if there are any. -/
def FinitePoints (r : TestResult) : Prop := ∀ x ∈ r.points, x.isFinite = true

/-- The fields of a result with the members that are written for them. -/
def entries (r : TestResult) (h : r.FinitePoints) : List Entry :=
  [.written testNumberField (reads_ofUInt64 r.testNumber),
    .written verdictField (reads_encode r.verdict),
    .present "points" fun x hx => reads_ofReal (h x hx),
    .optional "time" reads_string r.time,
    .optional "memory" reads_string r.memory,
    .optional "wall_time" reads_string r.wallTime,
    .optional "exit_code" reads_ofInt32 r.exitCode,
    .optional "error" reads_string r.error]

theorem nodup_layout : (layout.map Prod.fst).Nodup := by decide

/-- **A result with finite points is read back as it was written.** -/
theorem decode_encode (h : r.FinitePoints) : decode r.encode = .ok r :=
  decode_eq_ok_iff.mpr (Entry.exists_given (r.entries h) nodup_layout)

/-- **A result that comes out of a document has finite points.** -/
theorem yields_finitePoints : Decode.Yields decode FinitePoints := by
  intro v r hv h
  obtain ⟨given, hrecord, -, -, hpoints, -⟩ := decode_eq_ok_iff.mp h
  exact Field.of_get (f := pointsField) Decode.yields_real64.nullable (by rintro _ ⟨⟩ _ ⟨⟩) hrecord
    hv hpoints

end TestResult

/-! ### Results of test groups -/

namespace GroupResult

variable {r : GroupResult}

/-- **A result of a test group is read field by field.** -/
theorem decode_eq_ok_iff {v : Json} : decode v = .ok r ↔
    ∃ given, Decode.record layout v = .ok given ∧ groupNameField.get given = .ok r.groupName ∧
      pointsField.get given = .ok r.points ∧ passedField.get given = .ok r.passed := by
  simp only [decode, bind_eq_ok]
  constructor
  · rintro ⟨given, hrecord, groupName, hname, points, hpoints, passed, hpassed, h⟩
    obtain rfl := Except.ok.inj h
    exact ⟨given, hrecord, hname, hpoints, hpassed⟩
  · rintro ⟨given, hrecord, hname, hpoints, hpassed⟩
    exact ⟨given, hrecord, _, hname, _, hpoints, _, hpassed, rfl⟩

/-- **Whether the points are finite.** -/
def FinitePoints (r : GroupResult) : Prop := r.points.isFinite = true

/-- The fields of a result with the members that are written for them. -/
def entries (r : GroupResult) (h : r.FinitePoints) : List Entry :=
  [.written groupNameField (reads_string r.groupName),
    .written pointsField (reads_ofReal h),
    .written passedField (reads_bool r.passed)]

theorem nodup_layout : (layout.map Prod.fst).Nodup := by decide

/-- **A result with finite points is read back as it was written.** -/
theorem decode_encode (h : r.FinitePoints) : decode r.encode = .ok r :=
  decode_eq_ok_iff.mpr (Entry.exists_given (r.entries h) nodup_layout)

/-- **A result that comes out of a document has finite points.** -/
theorem yields_finitePoints : Decode.Yields decode FinitePoints := by
  intro v r hv h
  obtain ⟨given, hrecord, -, hpoints, -⟩ := decode_eq_ok_iff.mp h
  exact Field.of_get (f := pointsField) Decode.yields_real64 (by rintro _ ⟨⟩; rfl) hrecord hv
    hpoints

end GroupResult

/-! ### Results of compilations -/

namespace CompilationResult

/-- **A result of a compilation is read field by field.** -/
theorem decode_eq_ok_iff {v : Json} {r : CompilationResult} : decode v = .ok r ↔
    ∃ given, Decode.record layout v = .ok given ∧ verdictField.get given = .ok r.verdict ∧
      timeField.get given = .ok r.time ∧ memoryField.get given = .ok r.memory ∧
      wallTimeField.get given = .ok r.wallTime ∧ exitCodeField.get given = .ok r.exitCode := by
  simp only [decode, bind_eq_ok]
  constructor
  · rintro ⟨given, hrecord, verdict, hverdict, time, htime, memory, hmemory, wallTime, hwall,
      exitCode, hexit, h⟩
    obtain rfl := Except.ok.inj h
    exact ⟨given, hrecord, hverdict, htime, hmemory, hwall, hexit⟩
  · rintro ⟨given, hrecord, hverdict, htime, hmemory, hwall, hexit⟩
    exact ⟨given, hrecord, _, hverdict, _, htime, _, hmemory, _, hwall, _, hexit, rfl⟩

/-- The fields of a result with the members that are written for them. -/
def entries (r : CompilationResult) : List Entry :=
  [.written verdictField (reads_encode r.verdict),
    .optional "time" reads_string r.time,
    .optional "memory" reads_string r.memory,
    .optional "wall_time" reads_string r.wallTime,
    .optional "exit_code" reads_ofInt32 r.exitCode]

theorem nodup_layout : (layout.map Prod.fst).Nodup := by decide

/-- **A result is read back as it was written.** -/
theorem decode_encode (r : CompilationResult) : decode r.encode = .ok r :=
  decode_eq_ok_iff.mpr (Entry.exists_given r.entries nodup_layout)

end CompilationResult

/-! ### Listed submissions -/

namespace SubmissionSummary

variable {s : SubmissionSummary}

/-- **A listed submission is read field by field.** -/
theorem decode_eq_ok_iff {v : Json} : decode v = .ok s ↔
    ∃ given, Decode.record layout v = .ok given ∧
      idField.get given = .ok s.id ∧ problemIdField.get given = .ok s.problemId ∧
      languageField.get given = .ok s.language ∧ scoreField.get given = .ok s.score ∧
      verdictField.get given = .ok s.verdict ∧
      currentTestField.get given = .ok s.currentTest := by
  simp only [decode, bind_eq_ok]
  constructor
  · rintro ⟨given, hrecord, id, hid, problemId, hproblem, language, hlanguage, score, hscore,
      verdict, hverdict, currentTest, hcurrent, h⟩
    obtain rfl := Except.ok.inj h
    exact ⟨given, hrecord, hid, hproblem, hlanguage, hscore, hverdict, hcurrent⟩
  · rintro ⟨given, hrecord, hid, hproblem, hlanguage, hscore, hverdict, hcurrent⟩
    exact ⟨given, hrecord, _, hid, _, hproblem, _, hlanguage, _, hscore, _, hverdict, _, hcurrent,
      rfl⟩

/-- The fields of a listed submission with the members that are written for them. -/
def entries (s : SubmissionSummary) (h : s.score.isFinite = true) : List Entry :=
  [.written idField (reads_ofUInt64 s.id),
    .written problemIdField (reads_ofUInt64 s.problemId),
    .written languageField (reads_string s.language),
    .written scoreField (reads_ofReal h),
    .written verdictField (reads_encode s.verdict),
    .optional "current_test" reads_ofUInt64 s.currentTest]

theorem nodup_layout : (layout.map Prod.fst).Nodup := by decide

/-- **A listed submission with finite points is read back as it was written.** -/
theorem decode_encode (h : s.score.isFinite = true) : decode s.encode = .ok s :=
  decode_eq_ok_iff.mpr (Entry.exists_given (s.entries h) nodup_layout)

/-- The points of a submission are finite if they come out of a document. -/
theorem isFinite_of_get {layout : List (String × Decoder Unit)} {v : Json}
    {given : List (String × Json)} (hrecord : Decode.record layout v = .ok given)
    (hv : v.isFinite = true) {x : Binary64} (h : scoreField.get given = .ok x) :
    x.isFinite = true :=
  Field.of_get (f := scoreField) Decode.yields_real64 (by rintro _ ⟨⟩; rfl) hrecord hv h

/-- **A listed submission that comes out of a document has finite points.** -/
theorem isFinite_of_decode {v : Json} (h : decode v = .ok s) (hv : v.isFinite = true) :
    s.score.isFinite = true := by
  obtain ⟨given, hrecord, -, -, -, hscore, -⟩ := decode_eq_ok_iff.mp h
  exact isFinite_of_get hrecord hv hscore

end SubmissionSummary

/-! ### Submissions -/

namespace Submission

open SubmissionSummary (idField problemIdField languageField scoreField verdictField
  currentTestField)

variable {s : Submission}

/-- **A submission is read field by field.** -/
theorem decode_eq_ok_iff {v : Json} : decode v = .ok s ↔
    ∃ given, Decode.record layout v = .ok given ∧
      idField.get given = .ok s.id ∧ problemIdField.get given = .ok s.problemId ∧
      languageField.get given = .ok s.language ∧ scoreField.get given = .ok s.score ∧
      verdictField.get given = .ok s.verdict ∧ currentTestField.get given = .ok s.currentTest ∧
      testResultsField.get given = .ok s.testResults ∧
      groupResultsField.get given = .ok s.groupResults ∧
      compilationResultField.get given = .ok s.compilationResult := by
  simp only [decode, bind_eq_ok]
  constructor
  · rintro ⟨given, hrecord, id, hid, problemId, hproblem, language, hlanguage, score, hscore,
      verdict, hverdict, currentTest, hcurrent, testResults, htests, groupResults, hgroups,
      compilationResult, hcompilation, h⟩
    obtain rfl := Except.ok.inj h
    exact ⟨given, hrecord, hid, hproblem, hlanguage, hscore, hverdict, hcurrent, htests, hgroups,
      hcompilation⟩
  · rintro ⟨given, hrecord, hid, hproblem, hlanguage, hscore, hverdict, hcurrent, htests, hgroups,
      hcompilation⟩
    exact ⟨given, hrecord, _, hid, _, hproblem, _, hlanguage, _, hscore, _, hverdict, _, hcurrent,
      _, htests, _, hgroups, _, hcompilation, rfl⟩

/-- **Whether all points of a submission are finite.** -/
structure FinitePoints (s : Submission) : Prop where
  /-- those of the whole -/
  score : s.score.isFinite = true
  /-- those of its tests -/
  tests : ∀ r ∈ s.testResults, r.FinitePoints
  /-- those of its test groups -/
  groups : ∀ rs ∈ s.groupResults, ∀ r ∈ rs, r.FinitePoints

/-- The fields of a submission with the members that are written for them. -/
def entries (s : Submission) (h : s.FinitePoints) : List Entry :=
  [.written idField (reads_ofUInt64 s.id),
    .written problemIdField (reads_ofUInt64 s.problemId),
    .written languageField (reads_string s.language),
    .written scoreField (reads_ofReal h.score),
    .written verdictField (reads_encode s.verdict),
    .optional "current_test" reads_ofUInt64 s.currentTest,
    .written testResultsField
      (Json.reads_ofList_self fun r hr => TestResult.decode_encode (h.tests r hr)).listOrNull,
    .present "group_results" fun rs hrs =>
      Json.reads_ofList_self fun r hr => GroupResult.decode_encode (h.groups rs hrs r hr),
    .optional "compilation_result" (fun r => ⟨r.decode_encode, rfl⟩) s.compilationResult]

theorem nodup_layout : (layout.map Prod.fst).Nodup := by decide

/-- **A submission with finite points is read back as it was written.** -/
theorem decode_encode (h : s.FinitePoints) : decode s.encode = .ok s :=
  decode_eq_ok_iff.mpr (Entry.exists_given (s.entries h) nodup_layout)

/-- **A submission that comes out of a document has finite points.** -/
theorem finitePoints_of_decode {v : Json} (h : decode v = .ok s) (hv : v.isFinite = true) :
    s.FinitePoints := by
  obtain ⟨given, hrecord, -, -, -, hscore, -, -, htests, hgroups, -⟩ := decode_eq_ok_iff.mp h
  refine ⟨SubmissionSummary.isFinite_of_get hrecord hv hscore, ?_, ?_⟩
  · exact Field.of_get (f := testResultsField) TestResult.yields_finitePoints.listOrNull
      (by rintro _ ⟨⟩ _ ⟨⟩) hrecord hv htests
  · exact Field.of_get (f := groupResultsField) GroupResult.yields_finitePoints.list.nullable
      (by rintro _ ⟨⟩ _ ⟨⟩) hrecord hv hgroups

end Submission

end JudgeDesk
