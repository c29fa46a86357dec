import DiagramDiff.CommandLine.Run

/-!
# The program

The program reads everything that a run may need, hands it over, and prints what the run leaves
behind. All decisions are made in `CommandLine.run`.
-/

namespace DiagramDiff.Program

open CommandLine

/-- The reason why a file cannot be read. -/
def readError (e : IO.Error) : ReadError :=
  match e with
  | .noFileOrDirectory .. => .missing
  | .inappropriateType _ code _ => if code = 21 then .isDirectory else .notDirectory
  | _ => .other (toString e)

/-- Whether a path can be followed to its end. -/
def resolves (path : String) : IO Bool := do
  try
    let _ ← IO.FS.realPath path
    return true
  catch _ => return false

/-- Whether a path leads anywhere, and what reading it gives. What can be read is there even if its
path cannot be followed, as for a pipe. -/
def visit (path : String) : IO (Bool × Except ReadError String) := do
  try
    return (true, decodeText (← IO.FS.readBinFile path))
  catch e => return (← resolves path, .error (readError e))

/-- What reading standard input gives. -/
def readStandardInput : IO (Except ReadError String) := do
  try
    return decodeText (← (← IO.getStdin).readBinToEnd)
  catch e => return .error (readError e)

/-- The surroundings of a run with accepted arguments. -/
def gather (a : Arguments) : IO Surroundings := do
  let visits ← a.paths.mapM fun path => do return (path, ← visit path)
  let visited path := (visits.lookup path).getD (false, .error .missing)
  let input ← if a.inputs.contains standardInput then readStandardInput else pure (.ok "")
  return ⟨fun path => (visited path).1, fun path => (visited path).2, input⟩

end DiagramDiff.Program

/-- Runs the program on its arguments. -/
def main (args : List String) : IO UInt32 := do
  let surroundings ←
    match DiagramDiff.CommandLine.Arguments.ofList? args with
    | some a => DiagramDiff.Program.gather a
    | none => pure ⟨fun _ => false, fun _ => .error .missing, .error .missing⟩
  let terminal ← (← IO.getStdout).isTty
  let outcome :=
    DiagramDiff.CommandLine.run DiagramDiff.CommandLine.programName terminal args surroundings
  IO.print outcome.output
  IO.eprint outcome.complaint
  return outcome.code.toUInt32
