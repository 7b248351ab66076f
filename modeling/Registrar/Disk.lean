import Registrar.Failure
import Registrar.Sql.Script

/-!
# Disks

What is found under which path: directories, plain files and stores.  A path is a list of names
from the top directory down.
-/

namespace Registrar

open Registrar.Text

/-- What a path leads to. -/
inductive DiskEntry where
  | directory
  | file (bytes : List UInt8)
  | store (database : Sql.Database)

/-- The entry of a file with some bytes: a store if they are the script of one. -/
def DiskEntry.ofBytes (bytes : List UInt8) : DiskEntry :=
  match (String.fromUTF8? (ByteArray.mk bytes.toArray)).bind Sql.Database.ofScript? with
  | some database => .store database
  | none => .file bytes

/-- The entries of a disk.  The top directory is always there. -/
structure Disk where
  entries : List (List String × DiskEntry)

namespace Disk

/-- A disk with nothing but its top directory. -/
def empty : Disk :=
  ⟨[]⟩

/-- The entry under a path. -/
def find? (disk : Disk) (path : List String) : Option DiskEntry :=
  if path.isEmpty then some .directory
  else (disk.entries.find? fun entry => entry.1 == path).map Prod.snd

/-- Puts an entry under a path. -/
def put (disk : Disk) (path : List String) (entry : DiskEntry) : Disk :=
  ⟨(path, entry) :: disk.entries.filter fun other => other.1 != path⟩

/-- Follows a name of a path: one point stays, two points go up. -/
def step (path : List String) (name : String) : List String :=
  if name = "" ∨ name = "." then path
  else if name = ".." then path.dropLast
  else path ++ [name]

/-- The names of a path that is written as a text, starting from a directory unless it starts at the
top. -/
def locate (directory : List String) (path : String) : List String :=
  let names := (splitWhere (· == '/') path.toList).map String.ofList
  names.foldl step (if path.toList.head? == some '/' then [] else directory)

/-- Makes the directories of a path that are missing, those above a path made already. -/
def makeBelow (disk : Disk) (above : List String) : List String → Except Failure Disk
  | [] => .ok disk
  | name :: names =>
    let path := above ++ [name]
    match disk.find? path with
    | some .directory => disk.makeBelow path names
    | some _ => .error .files
    | none => (disk.put path .directory).makeBelow path names

/-- Makes the directories of a path that are missing. -/
def makeDirectories (disk : Disk) (path : List String) : Except Failure Disk :=
  disk.makeBelow [] path

/-- The bytes of a file. -/
def bytes (disk : Disk) (path : List String) : Except Failure (List UInt8) :=
  match disk.find? path with
  | some (.file bytes) => .ok bytes
  | _ => .error .files

/-- Opens the store under a path, and makes it if it is not there.  `written` is the path as the
caller wrote it. -/
def openStore (disk : Disk) (path : List String) (written : String) :
    Except Failure (Sql.Database × Disk) := do
  let disk ← disk.makeDirectories path.dropLast
  match disk.find? path with
  | some (.store database) => .ok (database, disk)
  | some (.file []) | none =>
    .ok (Sql.Database.empty, disk.put path (.store Sql.Database.empty))
  | some (.file _) => .error (.storage .notDatabase)
  | some .directory => .error (.storage (.cannotOpen written))

end Disk

end Registrar
