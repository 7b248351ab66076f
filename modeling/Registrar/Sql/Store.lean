import Registrar.Sql.Change
import Registrar.Sql.Declare
import Registrar.Sql.Reader

/-!
# Stores

An open store: its tables, and what a connection to them remembers.  While a transaction is open,
the store also keeps the tables as they were when it began.  A statement is prepared first, which
finds out whether it means something, and then run.  A statement that fails leaves the store as it
was.
-/

namespace Registrar.Sql

open Registrar.Text

/-- An open store. -/
structure Store where
  database : Database
  /-- The tables to go back to, while a transaction is open. -/
  saved : Option Database
  /-- References between rows are kept. -/
  enforcing : Bool
  /-- The id of the row inserted last. -/
  lastId : Int64
  /-- The number of rows that the last change changed. -/
  changes : Int64

/-- A statement that means something in a store. -/
inductive Action where
  | select (plan : Plan)
  | insert (insertion : Insertion)
  | update (revision : Revision)
  | delete (removal : Removal)
  /-- The tables become others, no rows being looked at. -/
  | become (database : Database)
  | drop (table : Table)
  | begin
  | commit
  | rollback
  | showEnforcing
  | setEnforcing (on : Bool)
  | nothing

/-- The answer of a statement that answers no rows. -/
def Answer.none : Answer :=
  ⟨[], []⟩

/-- Whether the text of a setting turns it on. -/
def isOn (value : String) : Bool :=
  let word := lowerAscii value
  ["on", "yes", "true"].contains word ||
    (!word.isEmpty && word.toList.all isDigit && word.toList.any (· != '0'))

namespace Store

/-- A store that has just been opened. -/
def opened (database : Database) : Store :=
  ⟨database, none, true, 0, 0⟩

/-- Whether a transaction is open. -/
def inTransaction (s : Store) : Bool :=
  s.saved.isSome

/-- The tables that stay when the store is closed now. -/
def committed (s : Store) : Database :=
  s.saved.getD s.database

/-- Finds out what a removal of a table or view means. -/
def prepareDrop (s : Store) (isView ifPresent : Bool) (name : String) : Except Fault Action :=
  match s.database.find? name with
  | none =>
    if ifPresent then .ok .nothing
    else if isView then .error (Problem.unknownView name).bare
    else .error (Problem.unknownTable name).bare
  | some item =>
    if isReservedName item.name then .error (Problem.undroppable item.name).bare
    else
      match item, isView with
      | .table t, false => .ok (.drop t)
      | .view _, true => .ok (.become (s.database.remove name))
      | .table t, true => .error (Problem.dropKind "TABLE" t.name).bare
      | .view v, false => .error (Problem.dropKind "VIEW" v.name).bare

/-- Finds out what a statement means.  `source` is the text of the statement. -/
def prepare (s : Store) (source : String) : Statement → Except Fault Action
  | .select query => do
    let plan ← s.database.plan query
    .ok (.select plan)
  | .insert table columns rows returning => do
    let insertion ← s.database.planInsert s.enforcing table columns rows returning
    .ok (.insert insertion)
  | .update table assignments condition returning => do
    let revision ← s.database.planUpdate s.enforcing table assignments condition returning
    .ok (.update revision)
  | .delete table condition returning => do
    let removal ← s.database.planDelete s.enforcing table condition returning
    .ok (.delete removal)
  | .createTable name ifMissing columns rules => do
    let database ← s.database.createTable source name ifMissing columns rules
    .ok (.become database)
  | .createView name ifMissing columns query => do
    let database ← s.database.createView source name ifMissing columns query
    .ok (.become database)
  | .drop isView ifPresent name => s.prepareDrop isView ifPresent name
  | .begin => .ok .begin
  | .commit => .ok .commit
  | .rollback => .ok .rollback
  | .pragma name value =>
    if sameName name "foreign_keys" then
      match value with
      | some value => .ok (.setEnforcing (isOn value))
      | none => .ok .showEnforcing
    else .ok .nothing

/-- What expressions are evaluated for, before there is a row. -/
def env (s : Store) (parameters : List Cell) : Env :=
  ⟨[], [], parameters, s.lastId, s.changes⟩

/-- The store after a change. -/
def afterChange (s : Store) (outcome : Outcome) : Store :=
  { s with
    database := outcome.database
    lastId := outcome.lastId.getD s.lastId
    changes := Int64.ofNat outcome.changed }

/-- Runs a statement.  Yields its answer and the store after it. -/
def run (s : Store) (parameters : List Cell) (action : Action) :
    Except Problem (Answer × Store) :=
  match action with
  | .select plan => do
    let answer ← plan.run (s.env parameters)
    .ok (answer, s)
  | .insert insertion => do
    let outcome ← insertion.run s.database s.enforcing (s.env parameters)
    .ok (outcome.answer, s.afterChange outcome)
  | .update revision => do
    let outcome ← revision.run s.database s.enforcing (s.env parameters)
    .ok (outcome.answer, s.afterChange outcome)
  | .delete removal => do
    let outcome ← removal.run s.database s.enforcing (s.env parameters)
    .ok (outcome.answer, s.afterChange outcome)
  | .become database => .ok (.none, { s with database })
  | .drop t => do
    let database ← s.database.dropTable s.enforcing (s.env parameters) t
    .ok (.none, { s with database })
  | .begin =>
    if s.inTransaction then .error .nestedTransaction
    else .ok (.none, { s with saved := some s.database })
  | .commit =>
    if s.inTransaction then .ok (.none, { s with saved := none })
    else .error .nothingToCommit
  | .rollback =>
    match s.saved with
    | some database => .ok (.none, { s with database, saved := none })
    | none => .error .nothingToRollBack
  | .showEnforcing =>
    .ok (⟨[("foreign_keys", none)], [[.integer (if s.enforcing then 1 else 0)]]⟩, s)
  | .setEnforcing on =>
    if s.inTransaction then .ok (.none, s) else .ok (.none, { s with enforcing := on })
  | .nothing => .ok (.none, s)

/-- The columns of the answer that a statement will give. -/
def columnsOf (action : Action) : List (String × Option String) :=
  let ofShown := fun shown : List Shown => shown.map fun s => (s.name, s.declared)
  match action with
  | .select plan => ofShown plan.shown
  | .insert insertion => ofShown insertion.returning
  | .update revision => ofShown revision.returning
  | .delete removal => ofShown removal.returning
  | .showEnforcing => [("foreign_keys", none)]
  | _ => []

/-- The first statement of a text, found meaningful. -/
structure Ready where
  /-- What to run, none when the text has no statement. -/
  action : Option Action
  /-- The number of parameters that the statement needs. -/
  parameters : Nat
  /-- The text behind the statement. -/
  rest : String

/-- Reads the first statement of a text and finds out what it means. -/
def ready (s : Store) (sql : String) : Except Error Ready :=
  match parse sql with
  | .error fault => .error (fault.seenIn sql)
  | .ok parsed =>
    match parsed.statement with
    | none => .ok ⟨none, 0, ""⟩
    | some statement =>
      match s.prepare parsed.source statement with
      | .error fault => .error (fault.seenIn sql)
      | .ok action => .ok ⟨some action, parsed.parameters, String.ofList parsed.rest⟩

/-- Runs a statement of a text; a problem names the text but no place. -/
def runReady (s : Store) (sql : String) (parameters : List Cell) (action : Action) :
    Except Error (Answer × Store) :=
  match s.run parameters action with
  | .ok result => .ok result
  | .error problem => .error (problem.bare.seenIn sql)

/-- Runs the statements of a text one after another, up to the first that fails.  Yields the store
after the last one that succeeded, and the problem if one failed. -/
def runScript : Nat → Store → String → Store × Option Error
  | 0, s, _ => (s, none)
  | fuel + 1, s, sql =>
    match s.ready sql with
    | .error e => (s, some e)
    | .ok ready =>
      match ready.action with
      | none => (s, none)
      | some action =>
        match s.runReady sql [] action with
        | .error e => (s, some e)
        | .ok (_, after) =>
          if ready.rest.isEmpty then (after, none) else runScript fuel after ready.rest

/-- Runs all statements of a text, up to the first that fails. -/
def script (s : Store) (sql : String) : Store × Option Error :=
  runScript (sql.length + 1) s sql

end Store

end Registrar.Sql
