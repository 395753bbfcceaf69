import JudgeDesk.Json.Record
import JudgeDesk.Text.Numeral
import JudgeDesk.Submission.Basic

/-!
# Artifacts

The judge keeps files about a submission: its source, the output of the compiler, and five files for
each test. They are fetched one by one, each from its own address.

* `Artifact` — what a kind of artifacts has to offer;
* `CompilationArtifact`, `TestArtifact` — the two kinds;
* `Resource` — a file as the judge sends it;
* `Target` — what is fetched, and `Target.path` — where;
* `Address` — which artifact of a submission is meant, and `Address.target` — what to fetch for it.
-/

namespace JudgeDesk

/-- **A kind of artifacts**: finitely many, in the order in which they are shown. -/
class Artifact (κ : Type) where
  /-- all artifacts of the kind -/
  all : List κ
  /-- none is missing -/
  mem_all : ∀ k, k ∈ all
  /-- none is there twice -/
  nodup_all : all.Nodup
  /-- the key of an artifact in a document -/
  key : κ → String

/-- The artifacts of the compilation. -/
inductive CompilationArtifact where
  /-- the source as it was sent -/
  | source
  /-- what the compiler said -/
  | compilationOutput
  deriving DecidableEq, Repr

/-- The artifacts of a test. -/
inductive TestArtifact where
  /-- what the solution was given -/
  | input
  /-- what it wrote -/
  | output
  /-- what it should have written -/
  | answer
  /-- what the checker said -/
  | checker
  /-- what it wrote on the side -/
  | stderr
  deriving DecidableEq, Repr

instance : Artifact CompilationArtifact where
  all := [.source, .compilationOutput]
  mem_all k := by cases k <;> simp
  nodup_all := by decide
  key
    | .source => "source"
    | .compilationOutput => "compilation_output"

instance : Artifact TestArtifact where
  all := [.input, .output, .answer, .checker, .stderr]
  mem_all k := by cases k <;> simp
  nodup_all := by decide
  key
    | .input => "input"
    | .output => "output"
    | .answer => "answer"
    | .checker => "checker"
    | .stderr => "stderr"

/-- The artifact of a key. -/
def Artifact.ofKey? {κ : Type} [Artifact κ] (key : String) : Option κ :=
  (Artifact.all : List κ).find? fun k => Artifact.key k = key

/-- The last segment of the path under which the judge keeps an artifact of a test. -/
def TestArtifact.segment : TestArtifact → String
  | .input => "input"
  | .output => "output"
  | .answer => "answer"
  | .checker => "check"
  | .stderr => "stderr"

/-! ### Files -/

/-- **A file** as the judge sends it. -/
structure Resource where
  /-- what it holds -/
  data : String := ""
  /-- its name -/
  filename : Option String := none
  /-- its size -/
  size : Option UInt64 := none
  deriving DecidableEq, Repr

namespace Resource

/-- A file that is nothing but its text. -/
def ofText (text : String) : Resource := { data := text }

/-- The field of what a file holds. -/
def dataField : Field String := .defaulting "data" Decode.text ""

/-- The field of its name. -/
def filenameField : Field (Option String) := .optional "filename" Decode.text

/-- The field of its size. -/
def sizeField : Field (Option UInt64) := .optional "size" Decode.uint64

/-- The fields of a file in their declared order. -/
def layout : List (String × Decoder Unit) :=
  [dataField.check, filenameField.check, sizeField.check]

/-- A file from a document. -/
def decode : Decoder Resource := fun v => do
  let given ← Decode.record layout v
  return {
    data := ← dataField.get given
    filename := ← filenameField.get given
    size := ← sizeField.get given
  }

/-- A file as a document. -/
def encode (r : Resource) : Json :=
  .ofMembers [
    Json.member "data" (.string r.data),
    Json.member? "filename" .string r.filename,
    Json.member? "size" .ofUInt64 r.size]

end Resource

/-- **How a download ended**: with a file, or with a message. -/
abbrev Outcome := Except String Resource

/-! ### Addresses -/

/-- **What is fetched.** -/
inductive Target where
  /-- the source of a submission -/
  | submissionSource (submissionId : UInt64)
  /-- what the compiler said about a submission -/
  | compileOutput (submissionId : UInt64)
  /-- an artifact that a test has whatever was submitted -/
  | problemTest (problemId : UInt64) (test : Nat) (artifact : TestArtifact)
  /-- an artifact of a test of a submission -/
  | submissionTest (submissionId : UInt64) (test : Nat) (artifact : TestArtifact)
  deriving DecidableEq, Repr

/-- **Where** the judge keeps it. -/
def Target.path : Target → String
  | .submissionSource id => "/submission/" ++ Text.decimal id.toNat ++ "/source"
  | .compileOutput id => "/submission/" ++ Text.decimal id.toNat ++ "/compile_output"
  | .problemTest id test artifact =>
    "/problem/" ++ Text.decimal id.toNat ++ "/test/" ++ Text.decimal test ++ "/" ++
      artifact.segment
  | .submissionTest id test artifact =>
    "/submission/" ++ Text.decimal id.toNat ++ "/test/" ++ Text.decimal test ++ "/" ++
      artifact.segment

/-- **Which artifact** of a submission is meant. -/
inductive Address where
  /-- an artifact of its compilation -/
  | compilation (artifact : CompilationArtifact)
  /-- an artifact of one of its tests, which are counted from one -/
  | test (test : Nat) (artifact : TestArtifact)
  deriving DecidableEq, Repr

/-- **What to fetch** for an artifact of a submission. Input and answer belong to the problem. -/
def Address.target (s : Submission) : Address → Target
  | .compilation .source => .submissionSource s.id
  | .compilation .compilationOutput => .compileOutput s.id
  | .test n .input => .problemTest s.problemId n .input
  | .test n .answer => .problemTest s.problemId n .answer
  | .test n artifact => .submissionTest s.id n artifact

/-- A target as a document. -/
def Target.encode : Target → Json
  | .submissionSource id =>
    .object [("kind", .string "submission_source"), ("submission_id", .ofUInt64 id)]
  | .compileOutput id =>
    .object [("kind", .string "compile_output"), ("submission_id", .ofUInt64 id)]
  | .problemTest id test artifact =>
    .object [("kind", .string "problem_test"), ("problem_id", .ofUInt64 id),
      ("test", .ofNat test), ("artifact", .string (Artifact.key artifact))]
  | .submissionTest id test artifact =>
    .object [("kind", .string "submission_test"), ("submission_id", .ofUInt64 id),
      ("test", .ofNat test), ("artifact", .string (Artifact.key artifact))]

/-- An address as a document. -/
def Address.encode : Address → Json
  | .compilation artifact =>
    .object [("set", .string "compilation"), ("artifact", .string (Artifact.key artifact))]
  | .test n artifact =>
    .object [("set", .string "test"), ("test", .ofNat n),
      ("artifact", .string (Artifact.key artifact))]

end JudgeDesk
