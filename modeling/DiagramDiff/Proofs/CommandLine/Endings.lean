import DiagramDiff.CommandLine.Run
import Mathlib.Data.List.Forall2

/-!
# How runs end

A run reads everything before it prints anything. So its output is either nothing or the answers on
all candidates, and the exit code tells which: 2 if the arguments are rejected, 1 if the settings or
an input cannot be had, 3 if differences were asked for and a candidate differs, and 0 otherwise
(`run_ends`).

The statement says what makes a run fail in terms of its surroundings: of the paths that are looked
at, whether they lead anywhere and what is read there (`SettingsAtFault`, `InputAtFault`), not of the
failures that the run makes of them. Of the settings file a run sees both, and the statement does not
assume that the two agree.
-/

namespace DiagramDiff.CommandLine

/-! ## One after the other -/

section traversal

variable {α β ε : Type} {f : α → Except ε β} {l : List α}

/-- A traversal succeeds with the results of all its steps. -/
theorem mapM_eq_ok_iff {results : List β} :
    l.mapM f = .ok results ↔ List.Forall₂ (fun a b => f a = .ok b) l results := by
  induction l generalizing results with
  | nil =>
    rw [List.forall₂_nil_left_iff]
    constructor
    · intro h
      cases h
      rfl
    · rintro rfl
      rfl
  | cons a l ih =>
    rw [List.mapM_cons, List.forall₂_cons_left_iff]
    constructor
    · intro h
      cases first : f a with
      | error e =>
        rw [first] at h
        cases h
      | ok b =>
        cases later : l.mapM f with
        | error e =>
          rw [first, later] at h
          cases h
        | ok bs =>
          rw [first, later] at h
          cases h
          exact ⟨b, bs, rfl, ih.mp later, rfl⟩
    · rintro ⟨b, bs, first, later, rfl⟩
      rw [first, ih.mpr later]
      rfl

/-- A traversal fails at one of its steps. -/
theorem exists_of_mapM_eq_error {e : ε} (h : l.mapM f = .error e) : ∃ a ∈ l, f a = .error e := by
  induction l with
  | nil => cases h
  | cons a l ih =>
    rw [List.mapM_cons] at h
    cases first : f a with
    | error e' =>
      rw [first] at h
      cases h
      exact ⟨a, List.mem_cons_self, first⟩
    | ok b =>
      cases later : l.mapM f with
      | error e' =>
        rw [first, later] at h
        cases h
        obtain ⟨c, hc, failed⟩ := ih later
        exact ⟨c, List.mem_cons_of_mem a hc, failed⟩
      | ok bs =>
        rw [first, later] at h
        cases h

end traversal

variable {s : Surroundings} {a : Arguments}

/-! ## Settings -/

/-- The file from which a run takes its settings: the one that was asked for, whether it exists or
not, or else the local one if it exists. -/
inductive TakesSettings (s : Surroundings) (a : Arguments) : String → Prop where
  /-- A file was asked for. -/
  | asked {path : String} (asked : a.settings = some path) : TakesSettings s a path
  /-- None was asked for, and there is a local one. -/
  | found (unasked : a.settings = none) (present : s.present localSettings = true) :
    TakesSettings s a localSettings

/-- The settings of a run cannot be had. -/
inductive SettingsAtFault (s : Surroundings) (a : Arguments) : Prop where
  /-- A file was asked for that does not exist. -/
  | absent {path : String} (asked : a.settings = some path) (absent : s.present path = false)
  /-- The file cannot be read. -/
  | unread {path : String} {e : ReadError} (taken : TakesSettings s a path)
    (unread : s.file path = .error e)
  /-- The file can be read, but it is no document of the right form, or it holds a value outside its
  range. -/
  | invalid {path text : String} {failure : Failure} (taken : TakesSettings s a path)
    (read : s.file path = .ok text) (invalid : Settings.ofText text = .error failure)

/-- Settings that are refused end a run with 1. -/
theorem exitCode_of_ofText {text : String} {failure : Failure}
    (h : Settings.ofText text = .error failure) : failure.exitCode = 1 := by
  unfold Settings.ofText at h
  split at h
  · cases h
    rfl
  · split at h
    · cases h
    · cases h
      rfl

/-- A settings file gives no settings if it does not exist, cannot be read or its text is refused. -/
theorem settingsFile_eq_error {path : String} {failure : Failure}
    (h : settingsFile s path = .error failure) :
    failure.exitCode = 1 ∧ (s.present path = false ∨ (∃ e, s.file path = .error e) ∨
      ∃ text, s.file path = .ok text ∧ Settings.ofText text = .error failure) := by
  unfold settingsFile at h
  split at h
  · cases read : s.file path with
    | ok text =>
      rw [read] at h
      exact ⟨exitCode_of_ofText h, .inr (.inr ⟨text, rfl, h⟩)⟩
    | error e =>
      rw [read] at h
      cases h
      exact ⟨rfl, .inr (.inl ⟨e, rfl⟩)⟩
  · next absent =>
    cases h
    exact ⟨rfl, .inl (Bool.eq_false_iff.mpr absent)⟩

/-- A settings file gives the settings that its text holds, if it exists and can be read. -/
theorem settingsFile_eq_ok_iff {path : String} {settings : Settings} :
    settingsFile s path = .ok settings ↔
      s.present path = true ∧
        ∃ text, s.file path = .ok text ∧ Settings.ofText text = .ok settings := by
  constructor
  · intro h
    unfold settingsFile at h
    split at h
    · next present =>
      cases read : s.file path with
      | ok text =>
        rw [read] at h
        exact ⟨present, text, rfl, h⟩
      | error e =>
        rw [read] at h
        cases h
    · cases h
  · rintro ⟨present, text, read, valid⟩
    rw [settingsFile, if_pos present, read]
    exact valid

/-- The settings of a run are those of the file from which it takes them. -/
theorem loadSettings_of_takes {path : String} (h : TakesSettings s a path) :
    loadSettings s a.settings = settingsFile s path := by
  unfold loadSettings
  cases h with
  | asked asked => rw [asked]
  | found unasked present => simp only [unasked, present, if_true]

/-- A run without settings has a settings file at fault. -/
theorem loadSettings_eq_error {failure : Failure} (h : loadSettings s a.settings = .error failure) :
    failure.exitCode = 1 ∧ SettingsAtFault s a := by
  have file : ∃ path, TakesSettings s a path := by
    cases asked : a.settings with
    | some path => exact ⟨path, .asked asked⟩
    | none =>
      cases present : s.present localSettings with
      | true => exact ⟨localSettings, .found asked present⟩
      | false =>
        simp only [loadSettings, asked, present] at h
        cases h
  obtain ⟨path, taken⟩ := file
  rw [loadSettings_of_takes taken] at h
  obtain ⟨code, absent | ⟨e, unread⟩ | ⟨text, read, invalid⟩⟩ := settingsFile_eq_error h
  · cases taken with
    | asked asked => exact ⟨code, .absent asked absent⟩
    | found unasked present =>
      rw [present] at absent
      cases absent
  · exact ⟨code, .unread taken unread⟩
  · exact ⟨code, .invalid taken read invalid⟩

/-- With a settings file at fault a run has no settings. -/
theorem SettingsAtFault.loadSettings_ne (h : SettingsAtFault s a) (settings : Settings) :
    loadSettings s a.settings ≠ .ok settings := by
  intro loaded
  cases h with
  | absent asked absent =>
    rw [loadSettings_of_takes (.asked asked), settingsFile_eq_ok_iff, absent] at loaded
    cases loaded.1
  | unread taken unread =>
    rw [loadSettings_of_takes taken, settingsFile_eq_ok_iff] at loaded
    obtain ⟨-, text, read, -⟩ := loaded
    rw [unread] at read
    cases read
  | invalid taken read invalid =>
    rw [loadSettings_of_takes taken, settingsFile_eq_ok_iff] at loaded
    obtain ⟨-, text, read', valid⟩ := loaded
    cases read.symm.trans read'
    rw [invalid] at valid
    cases valid

/-! ## Inputs -/

/-- What reading an input gives. -/
def Surroundings.input (s : Surroundings) (name : String) : Except ReadError String :=
  if name = CommandLine.standardInput then s.standardInput else s.file name

/-- The reference or a candidate cannot be read as text. -/
def InputAtFault (s : Surroundings) (a : Arguments) : Prop :=
  ∃ name ∈ a.inputs, ∃ e, s.input name = .error e

/-- An input that gives a text has been read. -/
theorem readInput_eq_ok_iff {name text : String} :
    readInput s name = .ok text ↔ s.input name = .ok text := by
  unfold readInput Surroundings.input
  split
  · cases s.standardInput <;> simp [Except.mapError]
  · cases s.file name <;> simp [Except.mapError]

/-- An input that gives no text could not be read. -/
theorem readInput_eq_error {name : String} {failure : Failure}
    (h : readInput s name = .error failure) :
    failure.exitCode = 1 ∧ ∃ e, s.input name = .error e := by
  unfold readInput at h
  unfold Surroundings.input
  split at h
  · cases read : s.standardInput with
    | ok text =>
      rw [read] at h
      cases h
    | error e =>
      rw [read] at h
      cases h
      exact ⟨rfl, e, by simp_all⟩
  · next file =>
    cases read : s.file name with
    | ok text =>
      rw [read] at h
      cases h
    | error e =>
      rw [read] at h
      cases h
      exact ⟨rfl, e, by rw [if_neg file]⟩

/-! ## Answers -/

/-- An answer on a candidate: its text, compared with the text of the reference. -/
structure AnswersOn (s : Surroundings) (settings : Settings) (reference name : String)
    (answer : CandidateReport) : Prop where
  /-- The candidate is named as on the command line. -/
  named : answer.name = name
  /-- Its text is what reading it gives. -/
  read : s.input name = .ok answer.source
  /-- The report is the comparison of the two texts. -/
  compared : answer.report = compareTexts settings.comparisonOptions reference answer.source

/-- A comparison succeeds with an answer on every candidate, in their order. -/
theorem compareAll_eq_ok_iff {settings : Settings} {reference : String} {candidates : List String}
    {answers : List CandidateReport} :
    compareAll settings s reference candidates = .ok answers ↔
      ∃ text, s.input reference = .ok text ∧
        List.Forall₂ (AnswersOn s settings text) candidates answers := by
  have step : ∀ text name answer,
      (do
        let source ← readInput s name
        return (⟨name, source, compareTexts settings.comparisonOptions text source⟩ :
          CandidateReport)) = Except.ok answer ↔ AnswersOn s settings text name answer := by
    intro text name answer
    constructor
    · intro h
      cases read : readInput s name with
      | error failure =>
        rw [read] at h
        cases h
      | ok source =>
        rw [read] at h
        cases h
        exact ⟨rfl, readInput_eq_ok_iff.mp read, rfl⟩
    · rintro ⟨rfl, source, compared⟩
      rw [readInput_eq_ok_iff.mpr source]
      show Except.ok (⟨answer.name, answer.source, _⟩ : CandidateReport) = .ok answer
      rw [← compared]
  unfold compareAll
  cases read : readInput s reference with
  | error failure =>
    obtain ⟨-, e, unread⟩ := readInput_eq_error read
    constructor
    · intro h
      cases h
    · rintro ⟨text, source, -⟩
      rw [unread] at source
      cases source
  | ok text =>
    have source := readInput_eq_ok_iff.mp read
    show candidates.mapM _ = _ ↔ _
    rw [mapM_eq_ok_iff]
    simp only [step]
    constructor
    · intro h
      exact ⟨text, source, h⟩
    · rintro ⟨other, source', h⟩
      rw [source] at source'
      cases source'
      exact h

/-- A comparison fails at an input that cannot be read. -/
theorem compareAll_eq_error {settings : Settings} {reference : String} {candidates : List String}
    {failure : Failure} (h : compareAll settings s reference candidates = .error failure) :
    failure.exitCode = 1 ∧ ∃ name ∈ reference :: candidates, ∃ e, s.input name = .error e := by
  unfold compareAll at h
  cases read : readInput s reference with
  | error failure' =>
    rw [read] at h
    cases h
    obtain ⟨code, e, unread⟩ := readInput_eq_error read
    exact ⟨code, reference, List.mem_cons_self, e, unread⟩
  | ok text =>
    rw [read] at h
    obtain ⟨name, member, failed⟩ := exists_of_mapM_eq_error h
    cases unread : readInput s name with
    | ok source =>
      rw [unread] at failed
      cases failed
    | error failure' =>
      rw [unread] at failed
      cases failed
      obtain ⟨code, e, unread⟩ := readInput_eq_error unread
      exact ⟨code, name, List.mem_cons_of_mem reference member, e, unread⟩

/-- Accepted arguments that do not ask for the schema name a reference. -/
theorem Arguments.exists_reference {args : List String} (h : Arguments.ofList? args = some a)
    (compares : a.schema = false) :
    ∃ reference, a.reference? = some reference ∧ a.inputs = reference :: a.candidates := by
  obtain ⟨-, accepted⟩ := Option.filter_eq_some_iff.mp h
  have long : 2 ≤ a.inputs.length := by
    simp only [Arguments.accepted, compares] at accepted
    exact (of_decide_eq_true accepted).1
  unfold Arguments.reference? Arguments.candidates
  cases inputs : a.inputs with
  | nil =>
    rw [inputs] at long
    cases long
  | cons reference candidates => exact ⟨reference, rfl, rfl⟩

/-- The answers of a run: there are settings, and with them an answer on every candidate. -/
structure Answered (s : Surroundings) (a : Arguments) (settings : Settings) (reference : String)
    (answers : List CandidateReport) : Prop where
  /-- The settings are those of the run. -/
  loaded : loadSettings s a.settings = .ok settings
  /-- The reference text is what reading the reference gives. -/
  referenced : ∃ name, a.reference? = some name ∧ s.input name = .ok reference
  /-- There is an answer on every candidate, in their order. -/
  answered : List.Forall₂ (AnswersOn s settings reference) a.candidates answers

section answer

variable {args : List String} {terminal : Bool} {settings : Settings} {reference : String}
  {answers : List CandidateReport}

/-- A run that fails ends with 1, and its settings or an input are at fault. -/
theorem answer_eq_error (accepted : Arguments.ofList? args = some a) {failure : Failure}
    (h : answer terminal a s = .error failure) :
    a.schema = false ∧ failure.exitCode = 1 ∧ (SettingsAtFault s a ∨ InputAtFault s a) := by
  unfold answer at h
  cases schema : a.schema with
  | true =>
    rw [schema] at h
    cases h
  | false =>
    rw [schema] at h
    obtain ⟨reference, -, inputs⟩ := Arguments.exists_reference accepted schema
    refine ⟨rfl, ?_⟩
    cases loaded : loadSettings s a.settings with
    | error failure' =>
      rw [loaded] at h
      cases h
      obtain ⟨code, fault⟩ := loadSettings_eq_error loaded
      exact ⟨code, .inl fault⟩
    | ok settings =>
      rw [loaded, inputs] at h
      cases compared : compareAll (a.override settings) s reference a.candidates with
      | error failure' =>
        simp only [bind, Except.bind, compared] at h
        cases h
        obtain ⟨code, name, member, unread⟩ := compareAll_eq_error compared
        exact ⟨code, .inr ⟨name, inputs ▸ member, unread⟩⟩
      | ok answers =>
        simp only [bind, Except.bind, compared] at h
        cases h

/-- A run that compares and does not fail answers on every candidate, in the form that its settings
ask for. -/
theorem answer_eq_ok (accepted : Arguments.ofList? args = some a) (compares : a.schema = false)
    {code : Nat} {output : String} (h : answer terminal a s = .ok (code, output)) :
    ∃ settings reference answers, Answered s a settings reference answers ∧
      code = exitCode a.check answers ∧
      output = printAnswers (a.override settings)
        ((a.override settings).output.color && terminal) answers := by
  obtain ⟨name, named, inputs⟩ := Arguments.exists_reference accepted compares
  unfold answer at h
  rw [compares] at h
  cases loaded : loadSettings s a.settings with
  | error failure =>
    rw [loaded] at h
    cases h
  | ok settings =>
    rw [loaded, inputs] at h
    cases compared : compareAll (a.override settings) s name a.candidates with
    | error failure =>
      simp only [bind, Except.bind, compared] at h
      cases h
    | ok answers =>
      simp only [bind, Except.bind, compared] at h
      cases h
      obtain ⟨reference, read, answered⟩ := compareAll_eq_ok_iff.mp compared
      refine ⟨settings, reference, answers, ⟨loaded, ⟨name, named, read⟩, ?_⟩, rfl, rfl⟩
      exact answered.imp fun _ _ on => ⟨on.named, on.read, on.compared⟩

/-- There is an answer on each candidate. -/
theorem Answered.exists_answer (h : Answered s a settings reference answers) {name : String}
    (member : name ∈ a.candidates) :
    ∃ answer ∈ answers, AnswersOn s settings reference name answer := by
  obtain ⟨i, hi, rfl⟩ := List.mem_iff_getElem.mp member
  have hi' : i < answers.length := h.answered.length_eq ▸ hi
  exact ⟨answers[i], List.getElem_mem hi', h.answered.get hi hi'⟩

/-- Each answer is one on a candidate. -/
theorem Answered.exists_candidate (h : Answered s a settings reference answers)
    {answer : CandidateReport} (member : answer ∈ answers) :
    ∃ name ∈ a.candidates, AnswersOn s settings reference name answer := by
  obtain ⟨i, hi, rfl⟩ := List.mem_iff_getElem.mp member
  have hi' : i < a.candidates.length := h.answered.length_eq.symm ▸ hi
  exact ⟨a.candidates[i], List.getElem_mem hi', h.answered.get hi' hi⟩

/-- A run that answers has its settings and inputs. -/
theorem Answered.not_atFault (accepted : Arguments.ofList? args = some a)
    (compares : a.schema = false) (h : Answered s a settings reference answers) :
    ¬ (SettingsAtFault s a ∨ InputAtFault s a) := by
  rintro (fault | ⟨name, member, e, unread⟩)
  · exact fault.loadSettings_ne settings h.loaded
  · obtain ⟨own, named, inputs⟩ := Arguments.exists_reference accepted compares
    rw [inputs] at member
    rcases List.mem_cons.mp member with rfl | member
    · obtain ⟨other, named', read⟩ := h.referenced
      rw [named] at named'
      cases named'
      rw [unread] at read
      cases read
    · obtain ⟨answer, -, on⟩ := h.exists_answer member
      have read := on.read
      rw [unread] at read
      cases read

end answer

/-! ## Endings -/

/-- A candidate differs from the reference under the settings of a run. -/
def Differs (s : Surroundings) (a : Arguments) (candidate : String) : Prop :=
  ∃ settings reference text source,
    loadSettings s a.settings = .ok settings ∧
    a.reference? = some reference ∧ s.input reference = .ok text ∧
    s.input candidate = .ok source ∧
    (compareTexts settings.comparisonOptions text source).identical = false

/-- An output answers the arguments in full: it is the schema, or the answers on all candidates. -/
def AnswersAll (terminal : Bool) (args : List String) (s : Surroundings) (output : String) : Prop :=
  ∃ a, Arguments.ofList? args = some a ∧
    if a.schema then output = Schema.report.indentedText ++ "\n"
    else ∃ settings reference answers, Answered s a settings reference answers ∧
      output = printAnswers (a.override settings)
        ((a.override settings).output.color && terminal) answers

/-- The ways in which a run can end, each with its exit code and its output. -/
inductive Ending (terminal : Bool) (args : List String) (s : Surroundings) :
    Nat → String → Prop where
  /-- The arguments are rejected. -/
  | rejected (rejected : Arguments.ofList? args = none) : Ending terminal args s 2 ""
  /-- The settings or an input cannot be had. -/
  | failed {a : Arguments} (accepted : Arguments.ofList? args = some a)
    (compares : a.schema = false) (fault : SettingsAtFault s a ∨ InputAtFault s a) :
    Ending terminal args s 1 ""
  /-- The schema is printed. -/
  | described {a : Arguments} (accepted : Arguments.ofList? args = some a)
    (describes : a.schema = true) :
    Ending terminal args s 0 (Schema.report.indentedText ++ "\n")
  /-- There is an answer on every candidate. -/
  | compared {a : Arguments} {settings : Settings} {reference : String}
    {answers : List CandidateReport} (accepted : Arguments.ofList? args = some a)
    (compares : a.schema = false) (answered : Answered s a settings reference answers) :
    Ending terminal args s (exitCode a.check answers)
      (printAnswers (a.override settings) ((a.override settings).output.color && terminal) answers)

variable {args : List String} {terminal : Bool}

/-- Every run ends in one of these ways. -/
theorem run_ending (program : String) (terminal : Bool) (args : List String) (s : Surroundings) :
    Ending terminal args s (run program terminal args s).code
      (run program terminal args s).output := by
  unfold run
  cases accepted : Arguments.ofList? args with
  | none => exact .rejected accepted
  | some a =>
    cases answered : answer terminal a s with
    | error failure =>
      obtain ⟨compares, code, fault⟩ := answer_eq_error accepted answered
      simp only [answered, code]
      exact .failed accepted compares fault
    | ok result =>
      obtain ⟨code, output⟩ := result
      simp only [answered]
      cases schema : a.schema with
      | true =>
        rw [answer, schema] at answered
        cases answered
        exact .described accepted schema
      | false =>
        obtain ⟨settings, reference, answers, given, rfl, rfl⟩ :=
          answer_eq_ok accepted schema answered
        exact .compared accepted schema given

/-- The exit code of a run that compared tells of differences if that was asked for and a candidate
differs, and of success otherwise. -/
theorem Answered.exitCode {settings : Settings} {reference : String}
    {answers : List CandidateReport} (h : Answered s a settings reference answers) :
    (exitCode a.check answers = 3 ∧ a.check = true ∧ ∃ name ∈ a.candidates, Differs s a name) ∨
      (exitCode a.check answers = 0 ∧
        ¬ (a.check = true ∧ ∃ name ∈ a.candidates, Differs s a name)) := by
  have differs : (∃ name ∈ a.candidates, Differs s a name) ↔
      answers.any (!·.report.identical) = true := by
    rw [List.any_eq_true]
    constructor
    · rintro ⟨name, member, settings', own, text, source, loaded, named, read, given, differ⟩
      obtain ⟨answer, answer_mem, on⟩ := h.exists_answer member
      obtain ⟨own', named', read'⟩ := h.referenced
      cases loaded.symm.trans h.loaded
      cases named.symm.trans named'
      cases read.symm.trans read'
      cases given.symm.trans on.read
      exact ⟨answer, answer_mem, by rw [on.compared, differ, Bool.not_false]⟩
    · rintro ⟨answer, answer_mem, differ⟩
      obtain ⟨name, member, on⟩ := h.exists_candidate answer_mem
      obtain ⟨own, named, read⟩ := h.referenced
      rw [on.compared, Bool.not_eq_true'] at differ
      exact ⟨name, member, settings, own, reference, answer.source, h.loaded, named, read, on.read,
        differ⟩
  unfold CommandLine.exitCode
  rw [differs, ← Bool.and_eq_true]
  split
  · next asked => exact .inl ⟨rfl, Bool.and_eq_true _ _ ▸ asked⟩
  · next unasked => exact .inr ⟨rfl, unasked⟩

namespace Ending

variable {code : Nat} {output : String}

/-- The exit code is 2 if and only if the arguments are rejected. -/
theorem code_eq_two_iff (h : Ending terminal args s code output) :
    code = 2 ↔ Arguments.ofList? args = none := by
  cases h with
  | rejected rejected => simp [rejected]
  | failed accepted => simp [accepted]
  | described accepted => simp [accepted]
  | compared accepted compares answered =>
    rcases answered.exitCode with ⟨code, -⟩ | ⟨code, -⟩ <;> simp [accepted, code]

/-- The exit code is 1 if and only if the settings or an input of a comparison cannot be had. -/
theorem code_eq_one_iff (h : Ending terminal args s code output) :
    code = 1 ↔ ∃ a, Arguments.ofList? args = some a ∧ a.schema = false ∧
      (SettingsAtFault s a ∨ InputAtFault s a) := by
  cases h with
  | rejected rejected => simp [rejected]
  | failed accepted compares fault => simp [accepted, compares, fault]
  | described accepted describes => simp [accepted, describes]
  | compared accepted compares answered =>
    have sound := answered.not_atFault accepted compares
    rcases answered.exitCode with ⟨code, -⟩ | ⟨code, -⟩ <;> simp [accepted, code, sound]

/-- The exit code is 3 if and only if a comparison succeeds that was asked to tell of differences,
and a candidate differs. -/
theorem code_eq_three_iff (h : Ending terminal args s code output) :
    code = 3 ↔ ∃ a, Arguments.ofList? args = some a ∧ a.schema = false ∧
      ¬ (SettingsAtFault s a ∨ InputAtFault s a) ∧
      a.check = true ∧ ∃ name ∈ a.candidates, Differs s a name := by
  cases h with
  | rejected rejected => simp [rejected]
  | failed accepted compares fault =>
    constructor
    · intro h
      cases h
    · rintro ⟨b, accepted', -, sound, -⟩
      cases accepted.symm.trans accepted'
      exact absurd fault sound
  | described accepted describes => simp [accepted, describes]
  | compared accepted compares answered =>
    have sound := answered.not_atFault accepted compares
    rcases answered.exitCode with ⟨code, differ⟩ | ⟨code, same⟩
    · simp only [accepted, code, Option.some.injEq, exists_eq_left', true_iff]
      exact ⟨compares, sound, differ⟩
    · simp only [accepted, code, Option.some.injEq, exists_eq_left']
      constructor
      · intro h
        cases h
      · rintro ⟨-, -, differ⟩
        exact absurd differ same

/-- A run that ends with 1 or 2 prints nothing, and any other run ends with 0 or 3 and answers in
full. -/
theorem all_or_nothing (h : Ending terminal args s code output) :
    ((code = 1 ∨ code = 2) ∧ output = "") ∨
      ((code = 0 ∨ code = 3) ∧ AnswersAll terminal args s output) := by
  cases h with
  | rejected rejected => exact .inl ⟨.inr rfl, rfl⟩
  | failed accepted compares fault => exact .inl ⟨.inl rfl, rfl⟩
  | described accepted describes =>
    refine .inr ⟨.inl rfl, _, accepted, ?_⟩
    rw [if_pos describes]
  | @compared a settings reference answers accepted compares answered =>
    have full : AnswersAll terminal args s (printAnswers (a.override settings)
        ((a.override settings).output.color && terminal) answers) := by
      refine ⟨a, accepted, ?_⟩
      rw [if_neg (Bool.eq_false_iff.mp compares)]
      exact ⟨settings, reference, answers, answered, rfl⟩
    rcases answered.exitCode with ⟨code, -⟩ | ⟨code, -⟩
    · exact .inr ⟨.inr code, full⟩
    · exact .inr ⟨.inl code, full⟩

end Ending

/-- Runs are all or nothing, and the exit code tells the truth: it is 2 exactly for rejected
arguments, 1 exactly if the settings or an input of a comparison cannot be had, 3 exactly if all of
these can be had, differences were asked for and a candidate differs, and 0 otherwise. With 1 and 2
nothing is printed, with 0 and 3 everything. Accepted arguments never lack a reference. -/
theorem run_ends (program : String) (terminal : Bool) (args : List String) (s : Surroundings) :
    ((run program terminal args s).code = 2 ↔ Arguments.ofList? args = none) ∧
    ((run program terminal args s).code = 1 ↔
      ∃ a, Arguments.ofList? args = some a ∧ a.schema = false ∧
        (SettingsAtFault s a ∨ InputAtFault s a)) ∧
    ((run program terminal args s).code = 3 ↔
      ∃ a, Arguments.ofList? args = some a ∧ a.schema = false ∧
        ¬ (SettingsAtFault s a ∨ InputAtFault s a) ∧
        a.check = true ∧ ∃ name ∈ a.candidates, Differs s a name) ∧
    ((((run program terminal args s).code = 1 ∨ (run program terminal args s).code = 2) ∧
        (run program terminal args s).output = "") ∨
      (((run program terminal args s).code = 0 ∨ (run program terminal args s).code = 3) ∧
        AnswersAll terminal args s (run program terminal args s).output)) ∧
    ¬ ∃ a message, Arguments.ofList? args = some a ∧
      answer terminal a s = .error (.usage message) := by
  have ending := run_ending program terminal args s
  refine ⟨ending.code_eq_two_iff, ending.code_eq_one_iff, ending.code_eq_three_iff,
    ending.all_or_nothing, ?_⟩
  rintro ⟨a, message, accepted, failed⟩
  obtain ⟨-, code, -⟩ := answer_eq_error accepted failed
  cases code

end DiagramDiff.CommandLine
