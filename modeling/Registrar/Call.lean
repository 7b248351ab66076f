import Registrar.Binding
import Registrar.Question
import Registrar.Record
import Registrar.Sql.Store
import Registrar.TableInfo

/-!
# Calls

What a caller can ask of an open store.  A call may fail; the session is its state also then.
Every change is carried out in a transaction of its own, which is rolled back if anything fails.
Statements that are built from a caller's arguments, and those that a caller gives to be queried,
are logged just before they run.
-/

namespace Registrar

open Registrar.Sql (Cell Store Action Answer)

/-- A statement in the log. -/
structure LogEntry where
  /-- The statement asks for rows. -/
  isQuery : Bool
  text : String
  /-- The number of values given for its parameters. -/
  parameters : Nat

/-- An open store, and the log of the statements run on it, the last one in front. -/
structure Session where
  store : Store
  log : List LogEntry

/-- A call on an open store. -/
abbrev Call (α : Type) := ExceptT Failure (StateM Session) α

namespace Call

/-- The open store. -/
def store : Call Store := do
  return (← get).store

/-- Goes on with a store. -/
def setStore (store : Store) : Call Unit :=
  modify fun session => { session with store }

/-- Logs a statement. -/
def note (isQuery : Bool) (statement : Statement) : Call Unit :=
  modify fun session =>
    { session with log := ⟨isQuery, statement.text, statement.parameters.length⟩ :: session.log }

/-- What a computation without a session yields. -/
def lift {α : Type} : Except Failure α → Call α
  | .ok a => pure a
  | .error f => throw f

/-- Fails because the store failed. -/
def fail {α : Type} (fault : StorageFault) : Call α :=
  throw (.storage fault)

/-- Finds out what a statement means, and binds its parameters. -/
def ready (store : Store) (statement : Statement) : Except StorageFault (Action × List Cell) :=
  match store.ready statement.text with
  | .error e => .error (.statement e)
  | .ok ready => do
    let cells ← bindValues ready.parameters statement.parameters
    match ready.action with
    | some action => .ok (action, cells)
    | none => .error .noStatement

/-- Runs a statement on a store. -/
def runOn (store : Store) (statement : Statement) : Except StorageFault (Answer × Store) := do
  let (action, cells) ← ready store statement
  match store.runReady statement.text cells action with
  | .ok result => .ok result
  | .error e => .error (.statement e)

/-- Runs a statement and reads its answer. -/
def query (statement : Statement) : Call (List Row) := do
  note true statement
  match runOn (← store) statement with
  | .error fault => fail fault
  | .ok (answer, after) => do
    setStore after
    return Row.ofAnswer answer

/-- Asks a question. -/
def select (question : Question) : Call (List Row) := do
  query (← lift question.statement)

/-- Asks a question for its first row. -/
def selectOne (question : Question) : Call Row := do
  match ← select question with
  | row :: _ => return row
  | [] => throw (.noRow question.table)

/-- Leaves a transaction that was not brought to its end: the store goes back to what it was when
the transaction began. -/
def abandon (store : Store) : Store :=
  match store.runReady "ROLLBACK" [] .rollback with
  | .ok (_, after) => after
  | .error _ => store

/-- Carries out a change on a store in a transaction of its own.  Yields the number of rows that
the statement changed, and the store after it; the transaction is abandoned as soon as anything
fails, and a statement that answers rows is no change. -/
def changeOn (before : Store) (statement : Statement) : Except StorageFault Nat × Store :=
  match before.runReady "BEGIN DEFERRED" [] .begin with
  | .error e => (.error (.statement e), before)
  | .ok (_, begun) =>
    match runOn begun statement with
    | .error fault => (.error fault, abandon begun)
    | .ok (answer, changed) =>
      if answer.rows.isEmpty then
        match changed.runReady "COMMIT" [] .commit with
        | .error e => (.error (.statement e), abandon changed)
        | .ok (_, after) => (.ok after.changes.toInt.toNat, after)
      else (.error .returnedRows, abandon changed)

/-- Carries out a change.  Yields the number of rows that it changed. -/
def change (statement : Statement) : Call Nat := do
  note false statement
  let (changed, after) := changeOn (← store) statement
  setStore after
  match changed with
  | .error fault => fail fault
  | .ok n => return n

/-- The columns that an insertion gives, with their values: every column without a default has to
be given, names that are no columns are passed over. -/
def insertPairs (table : String) (values : Entries Value) :
    List ColumnInfo → Except Failure (List (String × Value))
  | [] => .ok []
  | column :: columns =>
    match values.get? column.name with
    | some value => do
      let pairs ← insertPairs table values columns
      .ok ((column.name, value) :: pairs)
    | none =>
      if column.isRequired then .error (.rejected (.missingColumn column.name table))
      else insertPairs table values columns

/-- The statement that inserts a row. -/
def insertStatement (table : String) (pairs : List (String × Value)) : Statement :=
  if pairs.isEmpty then ⟨"INSERT INTO `" ++ table ++ "` DEFAULT VALUES", []⟩
  else ⟨"INSERT INTO `" ++ table ++ "` (" ++ ", ".intercalate (pairs.map Prod.fst) ++
    ") VALUES (" ++ Clause.marks pairs.length ++ ")", pairs.map Prod.snd⟩

/-- Inserts a row.  Yields its id. -/
def insert (table : String) (values : Entries Value) : Call Int64 := do
  let info ← lift ((← store).database.describe table)
  let pairs ← lift (insertPairs table values info.insertColumns)
  discard (change (insertStatement table pairs))
  return (← store).lastId

/-- Builds a record from values by field, and inserts it.  Yields the id of its row. -/
def insertAs (type : RecordType) (table : String) (values : Entries Value) : Call Int64 := do
  let record ← lift (type.ofValues values)
  insert table record.columnValues

/-- The statement that changes the rows that a condition means; to change nothing, or to change
rows without a condition, is refused. -/
def updateStatement (table : String) (values : Entries Value) (condition : Condition) :
    Except Failure Statement := do
  let table ← identifier table
  if values.isEmpty then .error (.rejected (.emptyUpdate table))
  else do
    let clause ← condition.clause table
    if clause.isEmpty then .error (.rejected (.unguardedUpdate table))
    else do
      let columns ← identifiers values.names
      .ok ⟨"UPDATE `" ++ table ++ "` SET " ++ ", ".intercalate (columns.map (· ++ " = ?")) ++
        " WHERE " ++ clause.text, values.values ++ clause.parameters⟩

/-- Changes the rows that a condition means.  Yields their number. -/
def update (table : String) (values : Entries Value) (condition : Condition) : Call Nat := do
  change (← lift (updateStatement table values condition))

/-- The statement that removes the rows that a condition means; to remove rows without a condition
is refused. -/
def deleteStatement (table : String) (condition : Option Condition) :
    Except Failure Statement := do
  let table ← identifier table
  match condition with
  | none => .error (.rejected (.unconditionalDelete table))
  | some condition => do
    let clause ← condition.clause table
    if clause.isEmpty then .error (.rejected (.unguardedDelete table))
    else .ok ⟨"DELETE FROM " ++ table ++ " WHERE " ++ clause.text, clause.parameters⟩

/-- Removes the rows that a condition means.  Yields their number. -/
def delete (table : String) (condition : Option Condition) : Call Nat := do
  change (← lift (deleteStatement table condition))

/-- Runs the statements of a text, up to the first that fails. -/
def script (text : String) : Call Unit := do
  let (after, failed) := (← store).script text
  setStore after
  match failed with
  | some e => fail (.statement e)
  | none => pure ()

/-- Describes a table. -/
def describe (table : String) : Call TableInfo := do
  lift ((← store).database.describe table)

/-- The names of the tables, in the order of their creation. -/
def tableNames : Call (List String) := do
  return (← store).database.tableNames

/-- Describes all tables that are listed. -/
def tableMap : Call (List (String × TableInfo)) := do
  let db := (← store).database
  lift (db.describeAll db.tableNames)

/-- Counts the rows of a table. -/
def countRows (table : String) : Call Nat := do
  match runOn (← store) ⟨"SELECT COUNT(*) AS count FROM " ++ table, []⟩ with
  | .error fault => fail fault
  | .ok (answer, _) =>
    match answer.rows with
    | [.integer n] :: _ => return n.toInt.toNat
    | _ => return 0

end Call

/-- A table that a caller keeps at hand: its description, and its number of rows once they have
been counted. -/
structure KeptTable where
  info : TableInfo
  count : Option Nat

namespace KeptTable

/-- A table just described. -/
def ofInfo (info : TableInfo) : KeptTable :=
  ⟨info, none⟩

/-- The number of rows, counted only once.  Yields the table with its number. -/
def rowCount (kept : KeptTable) : Call (Nat × KeptTable) :=
  match kept.count with
  | some n => pure (n, kept)
  | none => do
    let n ← Call.countRows kept.info.name
    return (n, { kept with count := some n })

/-- Forgets the number of rows. -/
def forgetCount (kept : KeptTable) : KeptTable :=
  { kept with count := none }

end KeptTable

end Registrar
