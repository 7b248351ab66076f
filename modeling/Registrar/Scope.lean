import Registrar.Call
import Registrar.Config
import Registrar.Disk

/-!
# Scopes

A scope owns at most one connection to its store.  It opens the connection when it is first needed,
and releasing it closes the connection: what was committed stays on the disk, a transaction that is
still open is lost, and so is a store in memory.
-/

namespace Registrar

open Registrar.Sql (Store Database)

/-- A scope: where its store is, and the connection once it is open. -/
structure Scope where
  /-- The directory from which the path of the store starts. -/
  directory : List String
  /-- The path of the store as it was written. -/
  path : String
  connection : Option Store

namespace Scope

/-- A scope without a connection. -/
def new (directory : List String) (path : String) : Scope :=
  ⟨directory, path, none⟩

/-- A scope of the same store, without a connection. -/
def renewed (scope : Scope) : Scope :=
  new scope.directory scope.path

/-- Whether the connection is open. -/
def isOpen (scope : Scope) : Bool :=
  scope.connection.isSome

/-- Whether the store is kept nowhere but in the connection. -/
def isFleeting (scope : Scope) : Bool :=
  scope.path == Configuration.memoryPath || scope.path.isEmpty

/-- The place of the store on the disk. -/
def location (scope : Scope) : List String :=
  Disk.locate scope.directory scope.path

/-- Opens the connection unless it is open.  Yields the open store. -/
def acquire (scope : Scope) (disk : Disk) : Except Failure (Store × Scope × Disk) :=
  match scope.connection with
  | some store => .ok (store, scope, disk)
  | none => do
    let (database, disk) ←
      if scope.isFleeting then pure (Database.empty, disk)
      else disk.openStore scope.location scope.path
    let store := Store.opened database
    .ok (store, { scope with connection := some store }, disk)

/-- Closes the connection if it is open. -/
def release (scope : Scope) (disk : Disk) : Scope × Disk :=
  match scope.connection with
  | none => (scope, disk)
  | some store =>
    let disk := if scope.isFleeting then disk
      else disk.put scope.location (.store store.committed)
    ({ scope with connection := none }, disk)

/-- What a call on a scope leaves: the scope and the disk, and the statements that were logged. -/
structure After where
  scope : Scope
  disk : Disk
  log : List LogEntry

/-- Carries out a call, opening the connection if needed. -/
def run {α : Type} (scope : Scope) (disk : Disk) (call : Call α) : Except Failure α × After :=
  match scope.acquire disk with
  | .error f => (.error f, ⟨scope, disk, []⟩)
  | .ok (store, scope, disk) =>
    let (result, session) := call.run ⟨store, []⟩
    (result, ⟨{ scope with connection := some session.store }, disk, session.log.reverse⟩)

end Scope

end Registrar
