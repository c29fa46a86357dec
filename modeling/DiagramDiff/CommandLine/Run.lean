import DiagramDiff.Codec.Report
import DiagramDiff.CommandLine.Arguments
import DiagramDiff.CommandLine.Surroundings
import DiagramDiff.Json.Printer
import DiagramDiff.Listing
import DiagramDiff.Schema
import DiagramDiff.Settings

/-!
# Runs

A run reads its settings, the reference and every candidate, in this order, and only then prints
anything. So a run that fails prints nothing on its output, and one that succeeds has an answer
for every candidate. The exit code tells which of these happened, and on request whether a
candidate differs.
-/

namespace DiagramDiff.CommandLine

/-! ## Words of the program -/

/-- The name under which the program complains. -/
def programName : String := "classdiff"

/-- The settings file that is looked for in the working directory. -/
def localSettings : String := "./classdiff.toml"

/-- How standard input is called in complaints. -/
def standardInputName : String := "<stdin>"

/-- The exit code that tells of differences. -/
def differingCode : Nat := 3

/-- How the program is called, line by line. -/
def usageLines (program : String) : List String :=
  ["Usage:",
    "  " ++ program ++ " [--json] [--no-highlight] [--no-color] [--check] [--config <path>] " ++
      "[--log-level <level>] <reference> <candidate>...",
    "  " ++ program ++ " --schema",
    "",
    "Use `-` for at most one input to read it from stdin.",
    "",
    "--json          print one JSON object per candidate and line",
    "--no-highlight  skip the annotated candidate listing",
    "--no-color      disable ANSI colors",
    "--check         exit with " ++ toString differingCode ++ " if any candidate differs",
    "--config        configuration file (default: ./classdiff.toml if present)",
    "--log-level     off, error, warn, info, debug or trace (default: RUST_LOG or warn)",
    "--schema        print the JSON schema of a report and exit"]

/-- How the program is called. -/
def usage (program : String) : String := endedLines (usageLines program)

/-! ## Reading -/

/-- The settings in a file. A path that leads nowhere is told apart from one that cannot be read. -/
def settingsFile (s : Surroundings) (path : String) : Except Failure Settings :=
  if s.present path then
    match s.file path with
    | .ok text => Settings.ofText text
    | .error e => .error (.read path e.message)
  else .error (.missingSettings path)

/-- The settings of a run: those of the file asked for, else those of the local file if there is
one, else the defaults. A local path that leads nowhere, such as a link to itself, counts as no
file. -/
def loadSettings (s : Surroundings) (path : Option String) : Except Failure Settings :=
  match path with
  | some path => settingsFile s path
  | none => if s.present localSettings then settingsFile s localSettings else .ok {}

/-- The settings with the flags of the command line applied. -/
def Arguments.override (a : Arguments) (settings : Settings) : Settings :=
  { settings with
    output :=
      { format := if a.json then .json else settings.output.format
        highlight := settings.output.highlight && !a.noHighlight
        color := settings.output.color && !a.noColor } }

/-- The text of an input. -/
def readInput (s : Surroundings) (input : String) : Except Failure String :=
  if input = standardInput then
    s.standardInput.mapError fun e => .read standardInputName e.message
  else (s.file input).mapError fun e => .read input e.message

/-! ## Answers -/

/-- A candidate with its report. -/
structure CandidateReport where
  /-- The candidate as it is named on the command line. -/
  name : String
  /-- The text of the candidate. -/
  source : String
  /-- The report on it. -/
  report : Report

namespace CandidateReport

/-- The answer on a candidate as JSON. -/
def toJson (c : CandidateReport) : Json :=
  .object [("candidate", .string c.name), ("report", c.report.toJson)]

/-- The answer on a candidate as a line of JSON. -/
def jsonLine (c : CandidateReport) : String := c.toJson.text ++ "\n"

/-- The answer on a candidate as text: a header if there are several, the report, and the listing
if it is wanted and anything differs. -/
def text (settings : Settings) (color header : Bool) (c : CandidateReport) : String :=
  (if header then "== " ++ c.name ++ " ==\n" else "") ++
    (c.report.render color ++
      if settings.output.highlight && !c.report.identical then
        "\n" ++ renderListing color (c.report.markLines c.source)
      else "")

end CandidateReport

/-- The answers on the candidates, in the form that the settings ask for. -/
def printAnswers (settings : Settings) (color : Bool) (answers : List CandidateReport) : String :=
  match settings.output.format with
  | .json => String.join (answers.map (·.jsonLine))
  | .text =>
    "\n".intercalate (answers.map (·.text settings color (decide (1 < answers.length))))

/-! ## Runs -/

/-- What a run leaves behind. -/
structure Outcome where
  /-- The exit code. -/
  code : Nat
  /-- What is printed. -/
  output : String
  /-- What is complained of. -/
  complaint : String
  deriving DecidableEq, Repr

/-- The answers of a run that compares. -/
def compareAll (settings : Settings) (s : Surroundings) (reference : String)
    (candidates : List String) : Except Failure (List CandidateReport) := do
  let r ← readInput s reference
  candidates.mapM fun name => do
    let source ← readInput s name
    return ⟨name, source, compareTexts settings.comparisonOptions r source⟩

/-- The exit code of a run that compared. -/
def exitCode (check : Bool) (answers : List CandidateReport) : Nat :=
  if check && answers.any (!·.report.identical) then differingCode else 0

/-- The exit code and the output of a run with accepted arguments, on a terminal or not. -/
def answer (terminal : Bool) (a : Arguments) (s : Surroundings) : Except Failure (Nat × String) :=
  if a.schema then .ok (0, Schema.report.indentedText ++ "\n")
  else do
    let settings := a.override (← loadSettings s a.settings)
    match a.inputs with
    | [] => throw (.usage "missing reference")
    | reference :: candidates =>
      let answers ← compareAll settings s reference candidates
      return (exitCode a.check answers,
        printAnswers settings (settings.output.color && terminal) answers)

/-- What a run of the program leaves behind. -/
def run (program : String) (terminal : Bool) (args : List String) (s : Surroundings) : Outcome :=
  match Arguments.ofList? args with
  | none => ⟨2, "", usage program⟩
  | some a =>
    match answer terminal a s with
    | .ok (code, output) => ⟨code, output, ""⟩
    | .error failure =>
      ⟨failure.exitCode, "", programName ++ ": " ++ failure.message ++ "\n"⟩

/-- The paths that a run may read. -/
def Arguments.paths (a : Arguments) : List String :=
  a.settings.getD localSettings :: a.inputs.filter (· != standardInput)

end DiagramDiff.CommandLine
