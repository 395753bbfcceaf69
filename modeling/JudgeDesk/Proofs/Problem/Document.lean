import JudgeDesk.Problem.Document
import JudgeDesk.Proofs.Json.Finite
import JudgeDesk.Proofs.Json.Record

/-!
# Problems written and read back

A document says all there is to say about a problem, except for scores that are not finite: they are
written as null, and read back as absent. Such a score cannot come out of a document.

* `TestGroup.decode_eq_ok_iff`, `Problem.decode_eq_ok_iff` — a record is read field by field;
* `TestGroup.decode_encode`, `Problem.decode_encode` — what is read back;
* `Problem.decode_encode_eq_self_iff` — it is the problem exactly if all its scores are finite;
* `Problem.finiteScores_of_decode` — what comes out of a document has finite scores;
* `ProblemSummary.decode_encode` — a listed problem is read back.
-/

namespace JudgeDesk

open Json (reads_string reads_ofUInt64 reads_code)

/-! ### Test groups -/

namespace TestGroup

variable {g : TestGroup}

/-- **Whether the scores of a group are finite**, where it has any. -/
def hasFiniteScores (g : TestGroup) : Bool :=
  g.score.all Binary64.isFinite && g.testScore.all Binary64.isFinite

/-- **Whether all scores are finite.** -/
def FiniteScores (groups : List TestGroup) : Prop := ∀ g ∈ groups, g.hasFiniteScores = true

/-- A group without the scores that are not finite. -/
def asWritten (g : TestGroup) : TestGroup :=
  { g with
    score := g.score.filter Binary64.isFinite
    testScore := g.testScore.filter Binary64.isFinite }

theorem asWritten_eq_self_iff : g.asWritten = g ↔ g.hasFiniteScores = true := by
  have hscore (x : Option Binary64) : x.filter Binary64.isFinite = x ↔
      x.all Binary64.isFinite = true := by
    rcases x with _ | y
    · exact iff_of_true rfl rfl
    · rw [Option.filter_eq_some_iff, Option.all_some, and_iff_right rfl]
  rw [hasFiniteScores, Bool.and_eq_true, ← hscore, ← hscore]
  refine ⟨fun h => ⟨congrArg score h, congrArg testScore h⟩, fun h => ?_⟩
  rw [asWritten, h.1, h.2]

/-- **A group is read field by field.** -/
theorem decode_eq_ok_iff {v : Json} : decode v = .ok g ↔
    ∃ given, Decode.record layout v = .ok given ∧
      nameField.get given = .ok g.name ∧ firstTestField.get given = .ok g.firstTest ∧
      lastTestField.get given = .ok g.lastTest ∧ scoringTypeField.get given = .ok g.scoringType ∧
      feedbackTypeField.get given = .ok g.feedbackType ∧ scoreField.get given = .ok g.score ∧
      testScoreField.get given = .ok g.testScore ∧ requiredField.get given = .ok g.required := by
  simp only [decode, bind_eq_ok]
  constructor
  · rintro ⟨given, hrecord, name, hname, firstTest, hfirst, lastTest, hlast, scoringType, hscoring,
      feedbackType, hfeedback, score, hscore, testScore, htestScore, required, hrequired, h⟩
    obtain rfl := Except.ok.inj h
    exact ⟨given, hrecord, hname, hfirst, hlast, hscoring, hfeedback, hscore, htestScore,
      hrequired⟩
  · rintro ⟨given, hrecord, hname, hfirst, hlast, hscoring, hfeedback, hscore, htestScore,
      hrequired⟩
    exact ⟨given, hrecord, _, hname, _, hfirst, _, hlast, _, hscoring, _, hfeedback, _, hscore,
      _, htestScore, _, hrequired, rfl⟩

/-- The fields of a group with the members that are written for them. -/
def entries (g : TestGroup) : List Entry :=
  [.written nameField (reads_string g.name),
    .written firstTestField (reads_ofUInt64 g.firstTest),
    .written lastTestField (reads_ofUInt64 g.lastTest),
    .written scoringTypeField (reads_code g.scoringType),
    .written feedbackTypeField (reads_code g.feedbackType),
    .real "score" g.score,
    .real "test_score" g.testScore,
    .listing "required_group_names" (fun s => (reads_string s).decode_eq) (List.map_id g.required)
      g.required.isEmpty List.isEmpty_iff.mp]

theorem nodup_layout : (layout.map Prod.fst).Nodup := by decide

/-- **What is read back of a group.** -/
theorem decode_encode (g : TestGroup) : decode g.encode = .ok g.asWritten :=
  decode_eq_ok_iff.mpr (Entry.exists_given g.entries nodup_layout)

/-- **A group that comes out of a document has finite scores.** -/
theorem hasFiniteScores_of_decode {v : Json} (h : decode v = .ok g) (hv : v.isFinite = true) :
    g.hasFiniteScores = true := by
  obtain ⟨given, hrecord, -, -, -, -, -, hscore, htestScore, -⟩ := decode_eq_ok_iff.mp h
  have hfinite (name : String) {x : Option Binary64}
      (hx : (Field.optional name Decode.real64).get given = .ok x) :
      x.all Binary64.isFinite = true := by
    rw [Option.all_eq_true]
    exact Field.of_get Decode.yields_real64.nullable (by rintro _ ⟨⟩ _ ⟨⟩) hrecord hv hx
  exact Bool.and_eq_true_iff.mpr ⟨hfinite _ hscore, hfinite _ htestScore⟩

end TestGroup

/-! ### Problems -/

namespace Problem

variable {p : Problem}

/-- A problem without the scores that are not finite. -/
def asWritten (p : Problem) : Problem := { p with groups := p.groups.map TestGroup.asWritten }

/-- **A problem is read field by field.** -/
theorem decode_eq_ok_iff {v : Json} : decode v = .ok p ↔
    ∃ given, Decode.record layout v = .ok given ∧
      idField.get given = .ok p.id ∧ nameField.get given = .ok p.name ∧
      problemTypeField.get given = .ok p.problemType ∧
      timeLimitField.get given = .ok p.timeLimit ∧
      memoryLimitField.get given = .ok p.memoryLimit ∧
      testsNumberField.get given = .ok p.testsNumber ∧
      wallTimeLimitField.get given = .ok p.wallTimeLimit ∧
      maxOpenFilesField.get given = .ok p.maxOpenFiles ∧
      maxThreadsField.get given = .ok p.maxThreads ∧
      maxOutputSizeField.get given = .ok p.maxOutputSize ∧
      groupsField.get given = .ok p.groups := by
  simp only [decode, bind_eq_ok]
  constructor
  · rintro ⟨given, hrecord, id, hid, name, hname, problemType, hproblemType, timeLimit, htimeLimit,
      memoryLimit, hmemoryLimit, testsNumber, htestsNumber, wallTimeLimit, hwallTimeLimit,
      maxOpenFiles, hmaxOpenFiles, maxThreads, hmaxThreads, maxOutputSize, hmaxOutputSize, groups,
      hgroups, h⟩
    obtain rfl := Except.ok.inj h
    exact ⟨given, hrecord, hid, hname, hproblemType, htimeLimit, hmemoryLimit, htestsNumber,
      hwallTimeLimit, hmaxOpenFiles, hmaxThreads, hmaxOutputSize, hgroups⟩
  · rintro ⟨given, hrecord, hid, hname, hproblemType, htimeLimit, hmemoryLimit, htestsNumber,
      hwallTimeLimit, hmaxOpenFiles, hmaxThreads, hmaxOutputSize, hgroups⟩
    exact ⟨given, hrecord, _, hid, _, hname, _, hproblemType, _, htimeLimit, _, hmemoryLimit,
      _, htestsNumber, _, hwallTimeLimit, _, hmaxOpenFiles, _, hmaxThreads, _, hmaxOutputSize,
      _, hgroups, rfl⟩

/-- The fields of a problem with the members that are written for them. -/
def entries (p : Problem) : List Entry :=
  [.optional "id" reads_ofUInt64 p.id,
    .written nameField (reads_string p.name),
    .written problemTypeField (reads_code p.problemType),
    .written timeLimitField (reads_string p.timeLimit),
    .written memoryLimitField (reads_string p.memoryLimit),
    .written testsNumberField (reads_ofUInt64 p.testsNumber),
    .optional "wall_time_limit" reads_string p.wallTimeLimit,
    .optional "max_open_files" reads_ofUInt64 p.maxOpenFiles,
    .optional "max_threads" reads_ofUInt64 p.maxThreads,
    .optional "max_output_size" reads_string p.maxOutputSize,
    .listing "test_groups" TestGroup.decode_encode (Eq.refl p.asWritten.groups) false nofun]

theorem nodup_layout : (layout.map Prod.fst).Nodup := by decide

/-- **What is read back of a problem.** -/
theorem decode_encode (p : Problem) : decode p.encode = .ok p.asWritten :=
  decode_eq_ok_iff.mpr (Entry.exists_given p.entries nodup_layout)

/-- **A problem is read back as it is exactly if its scores are finite.** -/
theorem decode_encode_eq_self_iff (p : Problem) :
    decode p.encode = .ok p ↔ TestGroup.FiniteScores p.groups := by
  have hwritten : p.asWritten = p ↔
      p.groups.map TestGroup.asWritten = p.groups.map fun g => g := by
    rw [List.map_id']
    refine ⟨fun h => congrArg groups h, fun h => ?_⟩
    rw [asWritten, h]
  rw [decode_encode, Except.ok.injEq, hwritten, List.map_inj_left]
  exact forall₂_congr fun g _ => g.asWritten_eq_self_iff

/-- **A problem that comes out of a document has finite scores.** -/
theorem finiteScores_of_decode {v : Json} (h : decode v = .ok p) (hv : v.isFinite = true) :
    TestGroup.FiniteScores p.groups := by
  obtain ⟨given, hrecord, -, -, -, -, -, -, -, -, -, -, hgroups⟩ := decode_eq_ok_iff.mp h
  have hyields : Decode.Yields TestGroup.decode fun g => g.hasFiniteScores = true :=
    fun _ _ hv h => TestGroup.hasFiniteScores_of_decode h hv
  exact Field.of_get hyields.listOrNull (by rintro _ ⟨⟩ _ ⟨⟩) hrecord hv hgroups

end Problem

/-! ### Listings -/

namespace ProblemSummary

variable {p : ProblemSummary}

/-- **A listed problem is read field by field.** -/
theorem decode_eq_ok_iff {v : Json} : decode v = .ok p ↔
    ∃ given, Decode.record layout v = .ok given ∧
      idField.get given = .ok p.id ∧ nameField.get given = .ok p.name := by
  simp only [decode, bind_eq_ok]
  constructor
  · rintro ⟨given, hrecord, id, hid, name, hname, h⟩
    obtain rfl := Except.ok.inj h
    exact ⟨given, hrecord, hid, hname⟩
  · rintro ⟨given, hrecord, hid, hname⟩
    exact ⟨given, hrecord, _, hid, _, hname, rfl⟩

/-- The fields of a listed problem with the members that are written for them. -/
def entries (p : ProblemSummary) : List Entry :=
  [.written idField (reads_ofUInt64 p.id), .written nameField (reads_string p.name)]

theorem nodup_layout : (layout.map Prod.fst).Nodup := by decide

/-- **A listed problem is read back as it was written.** -/
theorem decode_encode (p : ProblemSummary) : decode p.encode = .ok p :=
  decode_eq_ok_iff.mpr (Entry.exists_given p.entries nodup_layout)

end ProblemSummary

end JudgeDesk
