import Gateway.FileTree.Edit
import Gateway.Program

/-!
# The command

The outer layer of the program: it looks up the files that a run may read, runs the program on
them, creates the file that the run has added, and reports. The gateway is told to stop as soon as
it listens.
-/

namespace Gateway.Command

/-- What is under a path: nothing, a directory, or a file with its bytes. -/
def look (path : String) : IO (Option (Option Bytes)) := do
  try
    let content ← IO.FS.readBinFile path
    return some (some content.toList)
  catch
    | .noFileOrDirectory .. => return none
    | _ => return some none

/-- A path with those of the directories above it. -/
def fronts (path : String) : List String :=
  let names := Text.splitString '/' path
  (List.range names.length).map fun n => "/".intercalate (names.take (n + 1))

/-- The tree of what is under some paths. -/
def snapshot (paths : List String) : IO FileTree := do
  let found ← (paths.flatMap fronts).filterMapM fun path => do
    return (← look path).map fun content => (Utf8.ofString path, content)
  return .ofFiles found

/-- The configuration file that a command line names, if any. -/
def configFiles (arguments : List Bytes) : List String :=
  match CommandLine.parse arguments with
  | .ok (.run cl) => cl.configFile.toList
  | _ => []

/-- The other files that a run reads. -/
def namedFiles (t : FileTree) (arguments : List Bytes) : List String :=
  match CommandLine.parse arguments with
  | .ok (.run cl) =>
    match (Program.prepare t cl).result with
    | .ok p => p.config.natsCreds.toList ++ [p.config.tlsCert, p.config.tlsKey]
    | .error _ => []
  | _ => []

/-- Creates the file under a path if a run has added it. -/
def create (before after : FileTree) (path : String) : IO Unit := do
  let name := Utf8.ofString path
  match before.regular? name, after.regular? name with
  | none, some content => IO.FS.writeBinFile path ⟨content.toArray⟩
  | _, _ => return ()

/-- Runs the program on the files that are there. -/
def run (arguments : List String) : IO UInt32 := do
  let arguments := arguments.map Utf8.ofString
  let own := configFiles arguments
  let t ← snapshot own
  let t ← snapshot (own ++ namedFiles t arguments)
  let report := Program.run t ⟨Network.idle, some 0, 0⟩ arguments
  own.forM (create t report.files)
  IO.print report.output
  IO.eprint report.errors
  return .ofNat (report.exit.getD 0)

end Gateway.Command

def main (arguments : List String) : IO UInt32 := Gateway.Command.run arguments
