/-!
# Failures

Reading a diagram and comparing two never fails. What can fail is the surroundings of a run: its
arguments, its settings and the files it reads and writes. A failure is a cause; its wording and
the exit code of the program are functions of it.
-/

namespace DiagramDiff

/-- A reason why a run cannot answer. -/
inductive Failure where
  /-- A file cannot be read. -/
  | read (path cause : String)
  /-- A file cannot be written. -/
  | write (path cause : String)
  /-- The settings are no document of the right form. -/
  | malformedSettings (detail : String)
  /-- The settings hold a value outside its range. -/
  | invalidSettings (detail : String)
  /-- The settings file that was asked for does not exist. -/
  | missingSettings (path : String)
  /-- The program was called in the wrong way. -/
  | usage (message : String)
  deriving DecidableEq, Repr

namespace Failure

/-- The wording of a failure. -/
def message : Failure → String
  | .read path cause => "Failed to read " ++ path ++ ": " ++ cause
  | .write path cause => "Failed to write " ++ path ++ ": " ++ cause
  | .malformedSettings detail => "Failed to parse TOML configuration: " ++ detail
  | .invalidSettings detail => "Validation error: " ++ detail
  | .missingSettings path => "Missing configuration file: " ++ path
  | .usage message => message

/-- The exit code of a run that ends with a failure. -/
def exitCode : Failure → Nat
  | .usage _ => 2
  | _ => 1

end Failure

end DiagramDiff
