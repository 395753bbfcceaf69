import Mathlib.Data.List.Induction
import JudgeDesk.Submission.Form

/-!
# The last parts of a form count

The parts of a form come in any order, some of them twice or more, and parts of other names come in
between. What is sent to the judge is told by the last part of each of four names: the problem, the
language, and the file, or the text where there is no file or an empty one.

* `Http.Part.last?` — the last part of a name;
* `SolutionForm.ofParts_eq` — a form is filled by the last parts of its four names;
* `checkedProblemId_eq_ok_iff`, `checkedLanguage_eq_ok_iff`, `source_cases` — when each thing that
  is asked for is there;
* `SolutionForm.IsComplete`, `SolutionForm.Yields` — what there has to be, and what it makes;
* `SolutionForm.solution_ofParts` — so a form makes a solution exactly if it is complete, and the
  solution is what its last parts say.
-/

namespace JudgeDesk

/-! ### Last parts -/

namespace Http.Part

/-- **The last part of a name**, if there is one. -/
def last? (name : String) (parts : List Part) : Option Part :=
  parts.reverse.find? fun p => p.name = some name

theorem last?_concat (name : String) (parts : List Part) (p : Part) :
    last? name (parts ++ [p]) = if p.name = some name then some p else last? name parts := by
  rw [last?, List.reverse_concat]
  by_cases h : p.name = some name
  · rw [if_pos h]
    exact List.find?_cons_of_pos (decide_eq_true h)
  · rw [if_neg h]
    exact List.find?_cons_of_neg (by simpa using h)

end Http.Part

open Http.Part (last?)

namespace SolutionForm

/-- A part without a name counts as one of a name that no field has. -/
theorem getD_name_eq_iff {p : Http.Part} {name : String} (hname : name ≠ "") :
    p.name.getD "" = name ↔ p.name = some name := by
  rcases p.name with _ | given
  · exact iff_of_false (Ne.symm hname) nofun
  · exact (Option.some_inj).symm

/-- **A part fills the field of its name**, and no other: the four names differ. -/
theorem add_eq (f : SolutionForm) (p : Http.Part) :
    f.add p =
      { problemId := if p.name = some problemIdName then some p.text else f.problemId
        language := if p.name = some languageName then some p.text else f.language
        file := if p.name = some fileName then some (p.filename.getD "", p.content) else f.file
        text := if p.name = some textName then some p.text else f.text } := by
  simp only [add, getD_name_eq_iff (show fileName ≠ "" by decide),
    getD_name_eq_iff (show problemIdName ≠ "" by decide),
    getD_name_eq_iff (show languageName ≠ "" by decide),
    getD_name_eq_iff (show textName ≠ "" by decide)]
  split_ifs <;> simp_all [fileName, problemIdName, languageName, textName]

/-- **A form is filled by the last parts** of its four names. -/
theorem ofParts_eq (parts : List Http.Part) :
    ofParts parts =
      { problemId := (last? problemIdName parts).map (·.text)
        language := (last? languageName parts).map (·.text)
        file := (last? fileName parts).map fun p => (p.filename.getD "", p.content)
        text := (last? textName parts).map (·.text) } := by
  -- induction from the end, since the last part is the one that counts
  induction parts using List.reverseRecOn with
  | nil => rfl
  | append_singleton parts p ih =>
    have hconcat : ofParts (parts ++ [p]) = (ofParts parts).add p := by
      simp only [ofParts, List.foldl_append, List.foldl_cons, List.foldl_nil]
    rw [hconcat, ih, add_eq]
    simp only [Http.Part.last?_concat, apply_ite (Option.map _), Option.map_some]

theorem problemId_ofParts (parts : List Http.Part) :
    (ofParts parts).problemId = (last? "problem_id" parts).map (·.text) := by
  rw [ofParts_eq]
  rfl

theorem language_ofParts (parts : List Http.Part) :
    (ofParts parts).language = (last? "language" parts).map (·.text) := by
  rw [ofParts_eq]
  rfl

theorem file_ofParts (parts : List Http.Part) :
    (ofParts parts).file =
      (last? "solution" parts).map fun p => (p.filename.getD "", p.content) := by
  rw [ofParts_eq]
  rfl

theorem text_ofParts (parts : List Http.Part) :
    (ofParts parts).text = (last? "solution_text" parts).map (·.text) := by
  rw [ofParts_eq]
  rfl

/-! ### What is asked for -/

variable {f : SolutionForm}

/-- **The problem**: its id is a number once trimmed. -/
theorem checkedProblemId_eq_ok_iff {id : UInt64} :
    f.checkedProblemId = .ok id ↔
      ∃ typed, f.problemId = some typed ∧ Text.uint64? (Text.trim typed) = some id := by
  -- a blank id is a fault of its own, but would not read as a number either
  have hblank : Text.uint64? "" = none := rfl
  unfold checkedProblemId
  rcases f.problemId with _ | typed
  · simp only [Option.getD_none, show Text.trim "" = "" from rfl, if_true, reduceCtorEq,
      false_and, exists_false]
  · simp only [Option.getD_some, Option.some_inj, exists_eq_left']
    split
    · next h => rw [h, hblank]; exact iff_of_false nofun nofun
    · split
      · next h => rw [h, Except.ok.injEq, Option.some_inj]
      · next h => rw [h]; exact iff_of_false nofun nofun

/-- **The language**: it is not blank. -/
theorem checkedLanguage_eq_ok_iff {language : String} :
    f.checkedLanguage = .ok language ↔
      f.language = some language ∧ Text.isBlankText language = false := by
  unfold checkedLanguage
  rcases f.language with _ | given
  · exact iff_of_false nofun fun h => nomatch h.1
  · dsimp only
    rw [Option.some_inj]
    split
    · next h =>
      refine iff_of_false nofun ?_
      rintro ⟨rfl, hblank⟩
      rw [h] at hblank
      cases hblank
    · next h =>
      rw [Except.ok.injEq]
      refine ⟨?_, And.left⟩
      rintro rfl
      exact ⟨rfl, Bool.eq_false_iff.mpr h⟩

/-- **The source is the file** if that is not empty, under its name if it has one. -/
theorem source?_of_file {given : String} {content : Bytes} (h : f.file = some (given, content))
    (hne : content ≠ []) (language : String) :
    f.source? language =
      some (if given = "" then Solution.filenameFor language else given, content) := by
  have hempty : content.isEmpty = false := List.isEmpty_eq_false_iff.mpr hne
  simp only [source?, h, Option.filter_some, hempty, Bool.not_false, if_true]

/-- **The source is the text** if there is no file or an empty one, and the text is not empty. -/
theorem source?_of_text (h : ∀ file ∈ f.file, file.2 = []) (language : String) :
    f.source? language =
      (f.text.filter (· ≠ "")).map
        fun text => (Solution.filenameFor language, Text.bytes text) := by
  have hnone : (f.file.filter fun file => !file.2.isEmpty) = none := by
    rcases hfile : f.file with _ | file
    · rfl
    · rw [Option.filter_some, h file hfile]
      rfl
  rw [source?, hnone]
  rcases f.text.filter (· ≠ "") with _ | text <;> rfl

/-- A form makes a solution of the three things that are asked for. -/
theorem solution_eq_ok_iff {s : Solution} :
    f.solution = .ok s ↔ f.checkedProblemId = .ok s.problemId ∧
      f.checkedLanguage = .ok s.language ∧ f.source? s.language = some (s.filename, s.content) := by
  unfold solution
  rcases f.checkedProblemId with err | id
  · exact iff_of_false nofun fun h => nomatch h.1
  · rcases f.checkedLanguage with err | language
    · exact iff_of_false nofun fun h => nomatch h.2.1
    · obtain ⟨problemId, language', filename, content⟩ := s
      simp only [bind, Except.bind, Except.ok.injEq]
      constructor
      · intro h
        split at h
        · next hsource =>
          cases h
          exact ⟨rfl, rfl, hsource⟩
        · cases h
      · rintro ⟨rfl, rfl, hsource⟩
        rw [hsource]
        rfl

/-! ### What is sent -/

variable {parts : List Http.Part} {s : Solution}

/-- **A complete form**: its last parts hold what is asked for. -/
structure IsComplete (parts : List Http.Part) : Prop where
  /-- the id of the problem is a number once trimmed -/
  problemId : ∃ p id, last? "problem_id" parts = some p ∧ Text.uint64? (Text.trim p.text) = some id
  /-- the language is not blank -/
  language : ∃ p, last? "language" parts = some p ∧ Text.isBlankText p.text = false
  /-- the file or the text is not empty -/
  source : (∃ p, last? "solution" parts = some p ∧ p.content ≠ []) ∨
    ∃ p, last? "solution_text" parts = some p ∧ p.text ≠ ""

/-- **The solution of a form**: it holds what the last parts say. -/
structure Yields (parts : List Http.Part) (s : Solution) : Prop where
  /-- the problem is that whose id was typed -/
  problemId : ∃ p, last? "problem_id" parts = some p ∧
    Text.uint64? (Text.trim p.text) = some s.problemId
  /-- the language is as it was given -/
  language : ∃ p, last? "language" parts = some p ∧ s.language = p.text
  /-- it has a content -/
  content_ne : s.content ≠ []
  /-- its file has a name -/
  filename_ne : s.filename ≠ ""
  /-- a file that is not empty is its content, under its name if it has one -/
  file : ∀ p, last? "solution" parts = some p → p.content ≠ [] → s.content = p.content ∧
    s.filename = if p.filename.getD "" = "" then "solution." ++ s.language else p.filename.getD ""
  /-- without such a file its content is the text -/
  text : (∀ p, last? "solution" parts = some p → p.content = []) →
    ∃ p, last? "solution_text" parts = some p ∧ s.content = Text.bytes p.text ∧
      s.filename = "solution." ++ s.language

theorem filenameFor_ne (language : String) : Solution.filenameFor language ≠ "" :=
  fun h => absurd (String.append_eq_empty_iff.mp h).1 (by decide)

theorem bytes_ne_nil {text : String} (h : text ≠ "") : Text.bytes text ≠ [] := by
  intro hbytes
  rcases hchars : text.toList with _ | ⟨c, rest⟩
  · exact h (String.toList_eq_nil_iff.mp hchars)
  · rw [Text.bytes, hchars, List.flatMap_cons, List.append_eq_nil_iff] at hbytes
    exact String.utf8EncodeChar_ne_nil hbytes.1

/-- **The source of a form** is its last file, or its last text if there is no file or an empty
one. -/
theorem source_cases (parts : List Http.Part) (language : String) :
    (∃ p, last? "solution" parts = some p ∧ p.content ≠ [] ∧
      (ofParts parts).source? language =
        some (if p.filename.getD "" = "" then Solution.filenameFor language else p.filename.getD "",
          p.content)) ∨
    (∀ p, last? "solution" parts = some p → p.content = []) ∧
      (ofParts parts).source? language =
        (((last? "solution_text" parts).map (·.text)).filter (· ≠ "")).map
          fun text => (Solution.filenameFor language, Text.bytes text) := by
  have hfile := file_ofParts parts
  rcases hlast : last? "solution" parts with _ | p
  · rw [hlast, Option.map_none] at hfile
    refine .inr ⟨nofun, ?_⟩
    rw [source?_of_text (by rw [hfile]; exact nofun), text_ofParts]
  · rw [hlast, Option.map_some] at hfile
    by_cases hcontent : p.content = []
    · have hempty : ∀ file ∈ (ofParts parts).file, file.2 = [] := by
        intro file hmem
        rw [hfile] at hmem
        rw [← Option.some.inj hmem]
        exact hcontent
      refine .inr ⟨fun q hq => by rw [← Option.some.inj hq, hcontent], ?_⟩
      rw [source?_of_text hempty, text_ofParts]
    · exact .inl ⟨p, rfl, hcontent, source?_of_file hfile hcontent language⟩

/-- There is a source if the last file or the last text is not empty. -/
theorem exists_source_iff (language : String) :
    (∃ source, (ofParts parts).source? language = some source) ↔
      (∃ p, last? "solution" parts = some p ∧ p.content ≠ []) ∨
        ∃ p, last? "solution_text" parts = some p ∧ p.text ≠ "" := by
  rcases source_cases parts language with ⟨p, hp, hne, hsource⟩ | ⟨hnone, hsource⟩
  · exact iff_of_true ⟨_, hsource⟩ (.inl ⟨p, hp, hne⟩)
  · rw [or_iff_right fun ⟨p, hp, hne⟩ => hne (hnone p hp), hsource]
    simp [Option.filter_eq_some_iff, and_comm]

/-- **A form makes a solution exactly if it is complete.** -/
theorem exists_solution_iff : (∃ s, (ofParts parts).solution = .ok s) ↔ IsComplete parts := by
  simp only [solution_eq_ok_iff, checkedProblemId_eq_ok_iff, checkedLanguage_eq_ok_iff,
    problemId_ofParts, language_ofParts, Option.map_eq_some_iff]
  constructor
  · rintro ⟨s, ⟨_, ⟨p, hp, rfl⟩, hid⟩, ⟨⟨q, hq, hlanguage⟩, hblank⟩, hsource⟩
    rw [← hlanguage] at hblank
    exact ⟨⟨p, _, hp, hid⟩, ⟨q, hq, hblank⟩, (exists_source_iff s.language).mp ⟨_, hsource⟩⟩
  · rintro ⟨⟨p, id, hp, hid⟩, ⟨q, hq, hblank⟩, h⟩
    obtain ⟨⟨name, content⟩, hsource⟩ := (exists_source_iff q.text).mpr h
    refine ⟨⟨id, q.text, name, content⟩, ⟨p.text, ⟨p, hp, rfl⟩, hid⟩, ?_, hsource⟩
    exact ⟨⟨q, hq, rfl⟩, hblank⟩

/-- **A form makes the solution that its last parts say.** -/
theorem yields_of_solution (h : (ofParts parts).solution = .ok s) : Yields parts s := by
  obtain ⟨hid, hlanguage, hsource⟩ := solution_eq_ok_iff.mp h
  obtain ⟨typed, htyped, hid⟩ := checkedProblemId_eq_ok_iff.mp hid
  have hgiven := (checkedLanguage_eq_ok_iff.mp hlanguage).1
  rw [problemId_ofParts, Option.map_eq_some_iff] at htyped
  rw [language_ofParts, Option.map_eq_some_iff] at hgiven
  obtain ⟨p, hp, rfl⟩ := htyped
  obtain ⟨q, hq, hlanguage⟩ := hgiven
  have hproblem : ∃ p, last? "problem_id" parts = some p ∧
      Text.uint64? (Text.trim p.text) = some s.problemId := ⟨p, hp, hid⟩
  rcases source_cases parts s.language with ⟨r, hr, hne, hfile⟩ | ⟨hnone, htext⟩
  · -- the last file is the source
    obtain ⟨hname, hcontent⟩ := Prod.mk.inj (Option.some.inj (hfile.symm.trans hsource))
    refine ⟨hproblem, ⟨q, hq, hlanguage.symm⟩, ?_, ?_, fun r' hr' _ => ?_, fun hempty => ?_⟩
    · rw [← hcontent]
      exact hne
    · rw [← hname]
      split
      · exact filenameFor_ne _
      · assumption
    · obtain rfl := Option.some.inj (hr.symm.trans hr')
      exact ⟨hcontent.symm, hname.symm⟩
    · exact absurd (hempty r hr) hne
  · -- there is no file, or an empty one, so that the last text is the source
    rw [hsource, eq_comm, Option.map_eq_some_iff] at htext
    obtain ⟨text, hfilter, heq⟩ := htext
    obtain ⟨hname, hcontent⟩ := Prod.mk.inj heq
    obtain ⟨hlast, hne⟩ := Option.filter_eq_some_iff.mp hfilter
    obtain ⟨r, hr, rfl⟩ := Option.map_eq_some_iff.mp hlast
    refine ⟨hproblem, ⟨q, hq, hlanguage.symm⟩, ?_, ?_, fun r' hr' hne' => ?_, fun _ => ?_⟩
    · rw [← hcontent]
      exact bytes_ne_nil (of_decide_eq_true hne)
    · rw [← hname]
      exact filenameFor_ne _
    · exact absurd (hnone r' hr') hne'
    · exact ⟨r, hr, hcontent.symm, hname.symm⟩

/-- **The last parts of a form count**, whatever their order, and whatever else comes in between.
Forms with the same last parts of the four names make the same solution, or lack the same. A form
makes a solution exactly if it is complete, and that solution holds what its last parts say. -/
theorem solution_ofParts (parts : List Http.Part) :
    (∀ others, (∀ name ∈ ["problem_id", "language", "solution", "solution_text"],
      last? name others = last? name parts) →
        (ofParts others).solution = (ofParts parts).solution) ∧
      ((∃ s, (ofParts parts).solution = .ok s) ↔ IsComplete parts) ∧
      ∀ s, (ofParts parts).solution = .ok s → Yields parts s := by
  refine ⟨fun others hsame => ?_, exists_solution_iff, fun s => yields_of_solution⟩
  simp only [List.forall_mem_cons] at hsame
  obtain ⟨hid, hlanguage, hfile, htext, -⟩ := hsame
  rw [ofParts_eq others, ofParts_eq parts, problemIdName, languageName, fileName, textName, hid,
    hlanguage, hfile, htext]

/-- A part that is a field with a text. -/
def field (name text : String) : Http.Part := { name := some name, content := Text.bytes text }

/-- A form with an id in blanks, parts that come twice or have no name that counts, and an empty
file that takes the place of a full one. -/
def crowded : List Http.Part :=
  [field "problem_id" "four", field "solution_text" "print(1)",
    { field "solution" "int main(){}" with filename := some "a.cpp" }, field "language" "cpp",
    { name := none, content := [1, 2] }, field "problem_id" " 3 ", field "note" "urgent",
    field "language" "py", { field "solution" "" with filename := some "b.cpp" }]

theorem solution_crowded :
    (ofParts (crowded.drop 5 ++ [field "solution_text" "print(1)"])).solution =
        (ofParts crowded).solution ∧
      ∃ s, (ofParts crowded).solution = .ok s ∧ s.problemId = 3 ∧ s.language = "py" ∧
        s.content = Text.bytes "print(1)" ∧ s.filename = "solution." ++ s.language := by
  obtain ⟨hsame, hcomplete, hyields⟩ := solution_ofParts crowded
  have hproblem : last? "problem_id" crowded = some (field "problem_id" " 3 ") := rfl
  have hlanguage : last? "language" crowded = some (field "language" "py") := rfl
  have hfile : last? "solution" crowded =
      some { field "solution" "" with filename := some "b.cpp" } := rfl
  have htext : last? "solution_text" crowded = some (field "solution_text" "print(1)") := rfl
  have hid : Text.uint64? (Text.trim (field "problem_id" " 3 ").text) = some 3 := by decide
  obtain ⟨s, hs⟩ := hcomplete.mpr
    ⟨⟨_, 3, hproblem, hid⟩, ⟨_, hlanguage, by decide⟩, .inr ⟨_, htext, by decide⟩⟩
  have hyield := hyields s hs
  refine ⟨hsame _ (by decide), s, hs, ?_, ?_, ?_⟩
  · obtain ⟨p, hp, hid'⟩ := hyield.problemId
    obtain rfl := Option.some.inj (hproblem.symm.trans hp)
    exact Option.some.inj (hid'.symm.trans hid)
  · obtain ⟨p, hp, heq⟩ := hyield.language
    obtain rfl := Option.some.inj (hlanguage.symm.trans hp)
    rw [heq]
    decide
  · obtain ⟨p, hp, hcontent, hname⟩ := hyield.text fun p hp => by
      rw [← Option.some.inj (hfile.symm.trans hp)]
      rfl
    obtain rfl := Option.some.inj (htext.symm.trans hp)
    exact ⟨hcontent.trans (by decide), hname⟩

end SolutionForm

end JudgeDesk
