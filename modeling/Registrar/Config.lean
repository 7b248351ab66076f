import Registrar.Config.Toml
import Registrar.Failure

/-!
# Configuration

Where the store is and how much is logged.  A configuration text gives both, or leaves them at
their defaults; keys that nobody asks for are passed over, and a key that is asked for must not
occur twice.
-/

namespace Registrar

open Registrar.Text Registrar.Number Registrar.Config

/-- How much is logged, from the least to the most. -/
inductive LogLevel where
  | error
  | warn
  | info
  | debug
  | trace
deriving DecidableEq

/-- The word for a level. -/
def LogLevel.word : LogLevel → String
  | .error => "ERROR"
  | .warn => "WARN"
  | .info => "INFO"
  | .debug => "DEBUG"
  | .trace => "TRACE"

/-- All levels, from the least to the most. -/
def LogLevel.all : List LogLevel :=
  [.error, .warn, .info, .debug, .trace]

/-- The level of a name: its word in any case, or its number. -/
def LogLevel.ofName? (name : String) : Option LogLevel :=
  let number := match name.toList with
    | '+' :: ds => unsigned? ds
    | ds => unsigned? ds
  match number with
  | some n => if n = 0 then none else LogLevel.all[n - 1]?
  | none => LogLevel.all.find? fun level => sameName level.word name

/-- The configuration of a program. -/
structure Configuration where
  /-- The path of the store. -/
  path : String
  /-- The name of the log level, if one is given. -/
  level : Option String
deriving DecidableEq

namespace Configuration

/-- The path that stands for a store in memory. -/
def memoryPath : String := ":memory:"

/-- Whether the store is kept in memory only. -/
def isInMemory (c : Configuration) : Bool :=
  c.path == memoryPath

/-- The path of the store below a directory for data, or in the directory at hand when there is
none. -/
def defaultPath (dataDirectory : Option String) : String :=
  match dataDirectory with
  | some directory => directory ++ "/lorekeeper/db.sqlite"
  | none => "db.sqlite"

/-- The configuration of an empty text. -/
def standard (dataDirectory : Option String) : Configuration :=
  ⟨defaultPath dataDirectory, none⟩

/-- The log level; `info` is the default. -/
def logLevel (c : Configuration) : Except Failure LogLevel :=
  match c.level with
  | none => .ok .info
  | some name =>
    match LogLevel.ofName? name with
    | some level => .ok level
    | none => .error (.config (.level name))

/-- The values of a key among some pairs. -/
def valuesOf (key : String) (pairs : List (String × Item)) : List Item :=
  pairs.filterMap fun pair => if pair.1 == key then some pair.2 else none

/-- The sections whose headers start with a key, that key left out. -/
def sectionsOf (key : String) (sections : List Section) : List Section :=
  sections.filterMap fun s => match s.header with
    | first :: rest => if first == key then some { s with header := rest } else none
    | [] => none

/-- The pairs of a table that sections make up: those under its own header, and a table for every
longer header. -/
def sectionPairs (sections : List Section) : List (String × Item) :=
  sections.flatMap fun s => match s.header with
    | [] => s.pairs
    | first :: _ => [(first, .table [])]

/-- A table of a configuration that is asked for, in the order of its keys if it is given as an
array. -/
inductive Group where
  | pairs (pairs : List (String × Item))
  | positions (items : List Item)

/-- The table of a key.  It may be given as a value or by sections, but not by both, and not by
several values. -/
def group? (key : String) (sections : List Section) : Option (Option Group) :=
  let root := sections.flatMap fun s => if s.header.isEmpty then s.pairs else []
  let own := sectionsOf key sections
  match valuesOf key root, own with
  | [], [] => some none
  | [], own =>
    if own.any fun s => s.header.isEmpty && s.isArray then none
    else some (some (.pairs (sectionPairs own)))
  | [.table pairs], [] | [.dotted pairs], [] => some (some (.pairs pairs))
  | [.array items], [] => some (some (.positions items))
  | _, _ => none

/-- The text of a key of a table: `none` when the key is missing. -/
def textOf? (key : String) (group : Option Group) : Option (Option String) :=
  match group with
  | none => some none
  | some (.pairs pairs) =>
    match valuesOf key pairs with
    | [] => some none
    | [.text s] => some (some s)
    | _ => none
  | some (.positions []) => some none
  | some (.positions [.text s]) => some (some s)
  | some (.positions _) => none

/-- Whether no section occurs twice; sections in double brackets may. -/
def distinctHeaders : List Section → Bool
  | [] => true
  | s :: rest =>
    (s.header.isEmpty || !rest.any fun other => other.header == s.header &&
      !(s.isArray && other.isArray)) && distinctHeaders rest

/-- Whether a group leaves out an item that an array must have. -/
def lacksItem : Option Group → Bool
  | some (.positions []) => true
  | _ => false

/-- Reads a configuration text. -/
def read? (dataDirectory : Option String) (text : String) : Option Configuration := do
  let sections ← sections? text
  if !distinctHeaders sections then none
  else do
    let store ← group? "store" sections
    let log ← group? "log" sections
    let path ← textOf? "path" store
    let level ← textOf? "level" log
    if lacksItem log then none
    else some ⟨path.getD (defaultPath dataDirectory), level⟩

/-- The configuration that the bytes of a file give. -/
def load (dataDirectory : Option String) (bytes : List UInt8) : Except Failure Configuration :=
  match String.fromUTF8? (ByteArray.mk bytes.toArray) with
  | none => .error .files
  | some text =>
    match read? dataDirectory text with
    | some c => .ok c
    | none => .error (.config .unreadable)

end Configuration

end Registrar
