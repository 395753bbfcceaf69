/-!
# Languages of sources

A source is shown in the colours of its language. The name of the file tells the language, and
where it does not, the language that the submission was sent in.

* `SourceLanguage` — the languages that have colours;
* `SourceLanguage.ofFile` — the language of a file.
-/

namespace JudgeDesk

/-- A language that has colours. -/
inductive SourceLanguage where
  /-- C -/
  | c
  /-- C++, and all that nobody knows -/
  | cpp
  /-- Python -/
  | python
  /-- Java -/
  | java
  /-- Go -/
  | go
  /-- JavaScript -/
  | jsx
  deriving DecidableEq, Repr

namespace SourceLanguage

/-- The name of a language. -/
def word : SourceLanguage → String
  | c => "c"
  | cpp => "cpp"
  | python => "py"
  | java => "java"
  | go => "go"
  | jsx => "jsx"

/-- The language of a file extension or of the name of a compiler. -/
def ofKey : String → SourceLanguage
  | "c" => c
  | "gcc" => c
  | "py" => python
  | "python" => python
  | "python3" => python
  | "pypy" => python
  | "pypy3" => python
  | "java" => java
  | "go" => go
  | "js" => jsx
  | "jsx" => jsx
  | _ => cpp

/-- What follows the last point of a name, if it has one. -/
def extension? (name : List Char) : Option (List Char) :=
  if '.' ∈ name then some (name.reverse.takeWhile (· ≠ '.')).reverse else none

/-- The most bytes that an extension has; what is longer is none. -/
def maxExtension : Nat := 5

/-- **The language of a file**, by its extension, or by the language of its submission. -/
def ofFile (filename language : String) : SourceLanguage :=
  match extension? filename.toList with
  | none => ofKey language
  | some e =>
    let e := String.ofList e
    ofKey (if e.utf8ByteSize ≤ maxExtension then e else language)

end SourceLanguage

end JudgeDesk
