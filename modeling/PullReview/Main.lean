import PullReview.Command.Run
import PullReview.Timestamp

/-!
# The program

Reads the files that a command may need, runs it, writes back what it changed and prints what it
wrote. Every path of the command line that is there is read. There is no network, so that a language
model counts as unreachable.
-/

namespace PullReview.Program

/-- Directories deeper than this are not read. -/
def maxDepth : Nat := 64

private def fullPath (place : List String) : String := "/" ++ "/".intercalate place

/-- What is at a place, with everything below it. -/
def loadAt (skips : String → Bool) : Nat → List String → IO (List (List String × Node))
  | 0, _ => return []
  | depth + 1, place => do
      match ← ((← IO.currentDir) / fullPath place).readDir.toBaseIO with
      | .ok entries =>
          let names := (entries.toList.map (·.fileName)).filter fun n => !skips n
          let below ← names.mapM fun name => loadAt skips depth (place ++ [name])
          return (place, .directory) :: below.flatten
      | .error _ =>
          match ← (IO.FS.readBinFile (fullPath place)).toBaseIO with
          | .ok bytes => return [(place, .file bytes.toList)]
          | .error _ => return []

/-- The directories above a place. -/
private def above (place : List String) : List (List String × Node) :=
  (List.range (place.length - 1)).map fun n => (place.take (n + 1), .directory)

/-- The files at some places, in one tree. -/
def load (home : List String) (places : List (List String)) : IO FileTree := do
  let own ← loadAt (fun _ => false) maxDepth home
  let sources ← places.mapM (loadAt Repository.skippedDirectories.contains maxDepth)
  return ⟨own ++ sources.flatten ++ (home :: places).flatMap above⟩

/-- Makes the files as they are in a new tree. -/
def store (old new : FileTree) : IO Unit := do
  for (place, node) in new.nodes do
    if old.node? place != some node then
      match node with
      | .directory => IO.FS.createDirAll (fullPath place)
      | .file bytes => IO.FS.writeBinFile (fullPath place) ⟨bytes.toArray⟩
  let gone := old.nodes.filter fun n => (new.node? n.1).isNone
  for (place, node) in gone.mergeSort fun a b => FileTree.notAfter b.1 a.1 do
    match node with
    | .directory => IO.FS.removeDir (fullPath place)
    | .file _ => IO.FS.removeFile (fullPath place)

/-- The time of the clock that stamps files. -/
def now : IO String := do
  let (_, path) ← IO.FS.createTempFile
  let modified := (← path.metadata).modified
  IO.FS.removeFile path
  return timestamp modified.sec.toNat (modified.nsec.toNat / 1000)

/-- The directory of the configuration and the projects. -/
def homeDirectory (workingDirectory : List String) : IO (List String) := do
  let userHome := (← IO.getEnv "HOME").getD ""
  let given := (← IO.getEnv "REVIEWGRAPH_HOME").getD (userHome ++ "/.reviewgraph")
  return if Path.isAbsolute given then Path.components given
    else workingDirectory ++ Path.components given

/-- Prints how a command ended, if not by itself, and returns the exit code. -/
def finish (ending : Command.Ending) : IO UInt32 := do
  match ending with
  | .exit code => return code.toUInt32
  | .usage e =>
      IO.eprintln ("Error: " ++ e.message)
      return 2
  | .failure f =>
      IO.eprintln f.message
      return 1

def run (args : List String) : IO UInt32 := do
  let workingDirectory := Path.components (← IO.currentDir).toString
  let home ← homeDirectory workingDirectory
  let env : Command.Environment :=
    { home := home, workingDirectory := workingDirectory, now := ← now }
  let tree ← load home ((args.filter (· != "")).map env.resolve)
  match Config.load home tree with
  | .error f => finish (.failure (.config f))
  | .ok sections =>
      match Config.values sections with
      | .error f =>
          IO.eprintln f.message
          return 1
      | .ok values =>
          let (ending, s) := Command.run { env with values := values } tree args
          store tree s.tree
          IO.print s.out
          IO.eprint s.err
          finish ending

end PullReview.Program

def main (args : List String) : IO UInt32 := PullReview.Program.run args
