/-!
# Files and standard input

A run sees its surroundings through three things: whether a path leads anywhere, what reading a path
gives, and what standard input gives. Reading gives a text or the reason why there is none. The
reason does not tell whether the path leads anywhere: permission may be missing for a file or for a
directory on the way to it, and only a file then exists as far as a run can tell.

A `FileTree` is a directory held in memory; it resolves paths as a file system does, so that runs
over it can be computed.
-/

namespace DiagramDiff.CommandLine

/-! ## Reading -/

/-- Why a path gives no text. -/
inductive ReadError where
  /-- There is nothing at the path. -/
  | missing
  /-- The path passes through a file. -/
  | notDirectory
  /-- There is a directory at the path. -/
  | isDirectory
  /-- The file is not encoded in UTF-8. -/
  | notText
  /-- Any other reason, in words. -/
  | other (cause : String)
  deriving DecidableEq, Repr

namespace ReadError

/-- The reason in words. -/
def message : ReadError → String
  | .missing => "No such file or directory (os error 2)"
  | .notDirectory => "Not a directory (os error 20)"
  | .isDirectory => "Is a directory (os error 21)"
  | .notText => "stream did not contain valid UTF-8"
  | .other cause => cause

end ReadError

/-- The text that bytes encode. -/
def decodeText (bytes : ByteArray) : Except ReadError String :=
  match String.fromUTF8? bytes with
  | some s => .ok s
  | none => .error .notText

/-- What a run can see. The file system is asked twice about a path, once whether it leads anywhere
and once for the text, and the two answers need not agree: what is there may be unreadable, and a
file may come or go in between. -/
structure Surroundings where
  /-- Whether a path leads anywhere, as far as the file system tells. -/
  present : String → Bool
  /-- What reading a path gives. -/
  file : String → Except ReadError String
  /-- What reading standard input gives. -/
  standardInput : Except ReadError String

/-! ## Directories in memory -/

/-- What stands at a path of a directory. -/
inductive FileNode where
  /-- A file with its bytes. -/
  | file (bytes : ByteArray)
  /-- A directory. -/
  | directory

/-- A directory held in memory: the paths in it, each as the list of its steps. A path implies the
directories on the way to it. -/
structure FileTree where
  /-- The paths with what stands there. -/
  nodes : List (List String × FileNode)

namespace FileTree

/-- The steps of a path. -/
def stepsOf (path : String) : List String := (path.toList.splitOn '/').map String.ofList

/-- What stands at a list of steps. -/
def node? (t : FileTree) (steps : List String) : Option FileNode :=
  match t.nodes.find? (·.1 == steps) with
  | some (_, node) => some node
  | none =>
    if steps.isEmpty || t.nodes.any (fun (path, _) => steps.isPrefixOf path) then some .directory
    else none

/-- Whether a step stays where it is. -/
def staysPut (step : String) : Bool := step == "" || step == "."

/-- What reading from a directory on gives. Above the tree there are only directories, of which
nothing is known. -/
def readFrom (t : FileTree) (place : List String) : List String → Except ReadError String
  | [] => .error .isDirectory
  | step :: rest =>
    if staysPut step then t.readFrom place rest
    else if step = ".." then
      if place.isEmpty then
        .error (if rest.all fun s => staysPut s || s == ".." then .isDirectory else .missing)
      else t.readFrom place.dropLast rest
    else
      match t.node? (place ++ [step]) with
      | none => .error .missing
      | some .directory => t.readFrom (place ++ [step]) rest
      | some (.file bytes) => if rest.isEmpty then decodeText bytes else .error .notDirectory

/-- What reading a path gives. Of paths that do not start in the tree, only the topmost directory
is known. -/
def read (t : FileTree) (path : String) : Except ReadError String :=
  match stepsOf path with
  | [""] => .error .missing
  | "" :: rest => .error (if rest.all staysPut then .isDirectory else .missing)
  | steps => t.readFrom [] steps

/-- Whether a path leads anywhere. In a tree nothing stands in the way, so reading fails for want of
a file or directory only where there is none. -/
def present (t : FileTree) (path : String) : Bool :=
  match t.read path with
  | .error .missing | .error .notDirectory => false
  | _ => true

/-- The surroundings of a run in a directory. -/
def surroundings (t : FileTree) (standardInput : ByteArray) : Surroundings :=
  ⟨t.present, t.read, decodeText standardInput⟩

end FileTree

end DiagramDiff.CommandLine
