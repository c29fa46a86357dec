import DiagramDiff.Proofs.Codec.RoundTrip
import DiagramDiff.Proofs.CommandLine.Endings

/-!
# JSON output, line by line

A run that prints JSON prints one line for each candidate, in their order (`run_jsonLines`). A line
is the text of one JSON value, and such a text never holds a line feed, so neither names nor
sources can break it in two. It depends on the settings, the reference and its own candidate alone,
and the answer is read back from it.
-/

namespace DiagramDiff.CommandLine

open Text

variable {s : Surroundings} {a : Arguments}

/-! ## One answer -/

/-- The answer on a candidate is read back from its line, if the similarities in it are. -/
theorem CandidateReport.readBack (c : CandidateReport)
    (exact' : ∀ h ∈ c.report.hints, h.similarity.ReadsBack) : Json.ReadBack 6 c.toJson := by
  have report := c.report.readBack exact'
  exact .object (by simp [Json.ReadBack.string, report])

/-- A line tells of a candidate: it is the text of the answer that the texts of the reference and
of the candidate give under the options, and that answer is read back from it. -/
def TellsOf (s : Surroundings) (options : ComparisonOptions) (reference name line : String) : Prop :=
  ∃ source, s.input name = .ok source ∧
    line = (CandidateReport.mk name source (compareTexts options reference source)).toJson.text ∧
    ((∀ h ∈ (compareTexts options reference source).hints, h.similarity.ReadsBack) →
      ∃ j, Json.ofText? line = some j ∧
        j.member? "candidate" = some (.string name) ∧
        (j.member? "report").bind Report.ofJson? = some (compareTexts options reference source))

/-- The line of an answer tells of its candidate. -/
theorem AnswersOn.tellsOf {settings : Settings} {reference name : String} {answer : CandidateReport}
    (h : AnswersOn s settings reference name answer) :
    TellsOf s settings.comparisonOptions reference name answer.toJson.text := by
  have compared := h.compared
  rw [← h.named] at *
  refine ⟨answer.source, h.read, ?_, fun exact' => ⟨answer.toJson, ?_, rfl, ?_⟩⟩
  · rw [← compared]
  · rw [← compared] at exact'
    exact (answer.readBack exact').ofText?_text (by decide)
  · rw [← compared]
    exact answer.report.ofJson?_toJson

/-! ## All answers -/

/-- A run prints JSON: its arguments or its settings ask for it. -/
def PrintsJson (s : Surroundings) (a : Arguments) : Prop :=
  a.json = true ∨
    ∃ settings, loadSettings s a.settings = .ok settings ∧ settings.output.format = .json

/-- JSON is printed if the arguments or the settings ask for it. -/
theorem PrintsJson.format (json : PrintsJson s a) {settings : Settings}
    (loaded : loadSettings s a.settings = .ok settings) :
    (a.override settings).output.format = .json := by
  show (if a.json then OutputFormat.json else settings.output.format) = .json
  rcases json with asked | ⟨settings', loaded', json⟩
  · rw [if_pos asked]
  · cases loaded.symm.trans loaded'
    rw [json, ite_self]

/-- The output is the line of every answer, each ended by a line feed. -/
theorem pieces_printAnswers {settings : Settings} (json : settings.output.format = .json)
    (color : Bool) (answers : List CandidateReport) :
    pieces (printAnswers settings color answers).toList =
      (answers.map (·.toJson.text)).map String.toList ++ [[]] := by
  have output : (printAnswers settings color answers).toList =
      textOfLines ((answers.map (·.toJson.text)).map String.toList) := by
    rw [printAnswers, json, String.toList_join, textOfLines, List.map_map, List.flatMap_map,
      List.flatMap_map]
    refine List.flatMap_congr fun answer _ => ?_
    show (answer.toJson.text ++ "\n").toList = answer.toJson.text.toList ++ ['\n']
    exact String.toList_append
  rw [output]
  refine pieces_textOfLines fun line member => ?_
  simp only [List.map_map, List.mem_map] at member
  obtain ⟨answer, -, rfl⟩ := member
  show '\n' ∉ (String.ofList answer.toJson.compact).toList
  rw [String.toList_ofList]
  exact Json.newline_not_mem_compact answer.toJson

/-- A successful run that prints JSON prints as many lines as there are candidates, each ended by a
line feed, and each tells of the candidate in its place. -/
theorem run_jsonLines {program : String} {terminal : Bool} {args : List String}
    (accepted : Arguments.ofList? args = some a) (compares : a.schema = false)
    (json : PrintsJson s a) (success : (run program terminal args s).code ≠ 1) :
    ∃ settings reference text lines,
      loadSettings s a.settings = .ok settings ∧
      a.reference? = some reference ∧ s.input reference = .ok text ∧
      pieces (run program terminal args s).output.toList = lines.map String.toList ++ [[]] ∧
      List.Forall₂ (TellsOf s settings.comparisonOptions text) a.candidates lines := by
  have ending := run_ending program terminal args s
  generalize (run program terminal args s).code = code,
    (run program terminal args s).output = output at ending success ⊢
  cases ending with
  | rejected rejected =>
    rw [accepted] at rejected
    cases rejected
  | failed => exact absurd rfl success
  | described accepted' describes =>
    cases accepted.symm.trans accepted'
    rw [compares] at describes
    cases describes
  | @compared a' settings text answers accepted' _ answered =>
    cases accepted.symm.trans accepted'
    obtain ⟨reference, named, read⟩ := answered.referenced
    refine ⟨settings, reference, text, answers.map (·.toJson.text), answered.loaded, named, read,
      pieces_printAnswers (json.format answered.loaded) _ answers, ?_⟩
    rw [List.forall₂_map_right_iff]
    exact answered.answered.imp fun _ _ on => on.tellsOf

/-- Surroundings with one diagram in a file, and another one everywhere else but where the local
settings would be. -/
def kennel : Surroundings where
  present path := path != localSettings
  file path :=
    if path = localSettings then .error .missing
    else .ok (if path = "dog.mmd" then "class Dog\n" else "class Dogs\n")
  standardInput := .error .missing

/-- Two candidates are compared, of which one is the reference itself. -/
theorem run_jsonLines_kennel :
    ∃ settings reference text lines,
      loadSettings kennel none = .ok settings ∧
      reference = "dog.mmd" ∧ kennel.input reference = .ok text ∧
      pieces (run programName false ["--json", "dog.mmd", "dogs.mmd", "dog.mmd"]
        kennel).output.toList = lines.map String.toList ++ [[]] ∧
      List.Forall₂ (TellsOf kennel settings.comparisonOptions text)
        ["dogs.mmd", "dog.mmd"] lines := by
  obtain ⟨settings, reference, text, lines, loaded, named, read, output, told⟩ :=
    @run_jsonLines kennel { json := true, inputs := ["dog.mmd", "dogs.mmd", "dog.mmd"] }
      programName false ["--json", "dog.mmd", "dogs.mmd", "dog.mmd"]
      (by decide) rfl (.inl rfl) (by decide +kernel)
  exact ⟨settings, reference, text, lines, loaded, (Option.some.inj named).symm, read, output, told⟩

end DiagramDiff.CommandLine
