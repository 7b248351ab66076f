import Registrar.CommandLine
import Registrar.Password.Digest

/-!
# The program

Fetches from the disk what the command needs, runs it, and writes back the stores that it leaves.
-/

namespace Registrar

namespace Program

/-- A path from the top directory, as a text. -/
def pathText (path : List String) : String :=
  "/" ++ "/".intercalate path

/-- What the disk holds under a path. -/
def fetch (path : List String) : IO (Option DiskEntry) := do
  try
    let bytes ← IO.FS.readBinFile (pathText path)
    return some (DiskEntry.ofBytes bytes.toList)
  catch
    | .noFileOrDirectory .. => return none
    | _ => return some .directory

/-- Adds to a disk what is found under a path and above it. -/
def fetchAll (disk : Disk) (path : List String) : IO Disk :=
  (List.range path.length).foldlM (fun disk i => do
    let part := path.take (i + 1)
    match ← fetch part with
    | some entry => return disk.put part entry
    | none => return disk) disk

/-- The directory for data: the one that the environment names, or the usual one below the home
directory. -/
def dataDirectory : IO (Option String) := do
  let chosen ← IO.getEnv "XDG_DATA_HOME"
  let home ← IO.getEnv "HOME"
  return (chosen.filter fun path => path.startsWith "/") <|>
    home.map fun path => path ++ "/.local/share"

/-- Where the program runs, with what a command needs of the disk. -/
def surroundings (arguments : List String) : IO Surroundings := do
  let directory := Disk.locate [] (← IO.currentDir).toString
  let bare : Surroundings := ⟨directory, ← dataDirectory, Disk.empty⟩
  match Command.read? arguments with
  | some (.makeStore options) =>
    let disk ← match options.config with
      | some path => fetchAll bare.disk (Disk.locate directory path)
      | none => pure bare.disk
    let read := { bare with disk }
    match read.configuration options with
    | .ok c => return { read with disk := ← fetchAll disk (Disk.locate directory c.path) }
    | .error _ => return read
  | _ => return bare

/-- Writes the directories and stores of a disk. -/
def save (disk : Disk) : IO Unit := do
  for (path, entry) in disk.entries do
    match entry with
    | .store database =>
      IO.FS.createDirAll (pathText path.dropLast)
      IO.FS.writeFile (pathText path) database.script
    | .directory | .file _ => pure ()

end Program

end Registrar

open Registrar in
/-- Runs the program. -/
def main (arguments : List String) : IO UInt32 := do
  let salt ← IO.getRandomBytes 16
  let s ← Program.surroundings arguments
  let result := s.run (Password.hasher .standard salt.toList) arguments
  Program.save result.disk
  match result.printed with
  | .ok text =>
    IO.print text
    return 0
  | .error (some f) =>
    IO.eprintln ("Error: " ++ f.message)
    return 1
  | .error none =>
    IO.eprint Command.usage
    return 2
