import Registrar.Sql.Integrity
import Registrar.Sql.Plan

/-!
# Changes

Insertion, change and removal of rows.  A change is planned first: its names are resolved, and it
is refused if they mean nothing.  Carrying it out either yields the changed store or a problem, so
that a change that fails half-way leaves nothing behind.
-/

namespace Registrar.Sql

open Registrar.Text Registrar.Number

/-- What a change did. -/
structure Outcome where
  database : Database
  /-- The id of the row inserted last. -/
  lastId : Option Int64
  /-- The number of rows that the statement itself changed. -/
  changed : Nat
  /-- What the change returns. -/
  answer : Answer

/-- An insertion whose names have been resolved. -/
structure Insertion where
  table : String
  /-- The columns that are given values, none for the id of the row. -/
  targets : List (Option Nat)
  rows : List (List Expr)
  returning : List Shown

/-- A change of rows whose names have been resolved. -/
structure Revision where
  table : String
  assignments : List (Option Nat × Expr)
  condition : Option Expr
  returning : List Shown

/-- A removal of rows whose names have been resolved. -/
structure Removal where
  table : String
  condition : Option Expr
  returning : List Shown

namespace Database

/-- The table that a change means. -/
def changeable (db : Database) (name : String) : Except Fault Table :=
  match db.find? name with
  | none =>
    if ["sqlite_master", "sqlite_schema"].contains (lowerAscii name) then
      .error (Problem.protectedTable "sqlite_master").bare
    else .error (Problem.unknownTable name).bare
  | some (.view v) => .error (Problem.viewIsReadOnly v.name).bare
  | some (.table t) => .ok t

/-- The column of a name; none for the id of the row. -/
def targetColumn (t : Table) (name : String) : Option (Option Nat) :=
  match t.columnIndex? name with
  | some i => some (if t.idColumn = some i then none else some i)
  | none => if isIdName name then some none else none

/-- The columns that an insertion names. -/
def insertTargets (t : Table) (written : String) : List String → Except Fault (List (Option Nat))
  | [] => .ok []
  | name :: names =>
    match targetColumn t name with
    | some target => do
      let rest ← insertTargets t written names
      .ok (target :: rest)
    | none => .error (Problem.unknownInsertColumn written name).bare

/-- Resolves the values of new rows. -/
def resolveRows (names : Names) : List (List Expr) → Except Fault (List (List Expr))
  | [] => .ok []
  | row :: rows => do
    let row ← names.resolveAll row
    let rows ← resolveRows names rows
    .ok (row :: rows)

/-- Refuses rows with a wrong number of values. -/
def checkWidth (written : String) (columns : Option Nat) (width : Nat) (rows : List (List Expr)) :
    Except Fault Unit :=
  match rows with
  | [] => .ok ()
  | first :: rest =>
    if rest.any fun row => row.length ≠ first.length then .error Problem.unevenValues.bare
    else
      match columns with
      | some n =>
        if first.length = n then .ok () else .error (Problem.columnCount first.length n).bare
      | none =>
        if first.length = width then .ok ()
        else .error (Problem.valueCount written width first.length).bare

/-- Plans an insertion. -/
def planInsert (db : Database) (enforcing : Bool) (written : String)
    (columns : Option (List String)) (rows : NewRows) (returning : List Output) :
    Except Fault Insertion := do
  let t ← db.changeable written
  let all := t.columns.zipIdx.map fun entry =>
    if t.idColumn = some entry.2 then none else some entry.2
  let targets ← match columns with
    | some names => insertTargets t written names
    | none => pure all
  let (targets, rows) ← match rows with
    | .defaults => pure ([], [[]])
    | .values rows => do
      let resolved ← resolveRows ⟨[], [], false, true⟩ rows
      checkWidth written (columns.map List.length) t.columns.length resolved
      pure (targets, resolved)
  let returning ← t.names.allShown returning
  if enforcing then db.checkOutgoing t t.foreignKeys else pure ()
  .ok ⟨t.name, targets, rows, returning⟩

/-- Resolves the assignments of a change. -/
def resolveAssignments (t : Table) :
    List (String × Expr) → Except Fault (List (Option Nat × Expr))
  | [] => .ok []
  | (name, e) :: rest => do
    let e ← t.names.resolve e
    match targetColumn t name with
    | none => .error (Problem.unknownColumn name).bare
    | some target => do
      let assignments ← resolveAssignments t rest
      .ok ((target, e) :: assignments)

/-- Whether some columns of a table are assigned; `none` among the targets stands for the id. -/
def assigns (t : Table) (targets : List (Option Nat)) (columns : List Nat) : Bool :=
  columns.any fun i => targets.contains (if t.idColumn = some i then none else some i)

/-- Plans a change of rows. -/
def planUpdate (db : Database) (enforcing : Bool) (written : String)
    (assignments : List (String × Expr)) (condition : Option Expr) (returning : List Output) :
    Except Fault Revision := do
  let t ← db.changeable written
  let assignments ← resolveAssignments t assignments
  let condition ← t.names.resolveOption condition
  let returning ← t.names.allShown returning
  let targets := assignments.map Prod.fst
  if enforcing then do
    db.checkOutgoing t (t.foreignKeys.filter fun fk => assigns t targets fk.columns)
    checkIncoming t ((db.referencesTo t.name).filter fun entry =>
      match t.referredColumns entry.2 with
      | some columns => assigns t targets columns
      | none => true)
  else pure ()
  .ok ⟨t.name, assignments, condition, returning⟩

/-- Plans a removal of rows. -/
def planDelete (db : Database) (enforcing : Bool) (written : String) (condition : Option Expr)
    (returning : List Output) : Except Fault Removal := do
  let t ← db.changeable written
  let condition ← t.names.resolveOption condition
  let returning ← t.names.allShown returning
  if enforcing then do
    db.checkOutgoing t t.foreignKeys
    checkIncoming t (db.referencesTo t.name)
  else pure ()
  .ok ⟨t.name, condition, returning⟩

end Database

/-- The values that a change returns for a row. -/
def returned (env : Env) (returning : List Shown) (row : Row) : Except Problem (List Cell) :=
  Expr.evalAll (env.ofRow row.slots) (returning.map Shown.e)

/-- What a change returns. -/
def returnedAnswer (returning : List Shown) (rows : List (List Cell)) : Answer :=
  ⟨returning.map fun s => (s.name, s.declared), if returning.isEmpty then [] else rows⟩

/-- The rows of a table that meet a condition. -/
def Table.meeting (t : Table) (env : Env) (condition : Option Expr) : Except Problem (List Row) :=
  match condition with
  | none => .ok t.rows
  | some e => t.rows.filterM fun row => e.holds (env.ofRow row.slots)

/-- An id that a statement gives a row. -/
def givenId (cell : Cell) : Except Problem Int64 :=
  match Cell.store .integer cell with
  | .integer n => .ok n
  | _ => .error .kindMismatch

/-- The greatest id that a counting table ever had, as the store remembers it. -/
def Database.counted (db : Database) (t : Table) : Int :=
  match db.table? sequenceName with
  | some sequence =>
    match sequence.rows.find? fun row => row.cells.head? == some (.text t.name) with
    | some row => ((row.cells[1]?).getD Cell.null).toInt64.toInt
    | none => 0
  | none => 0

/-- The id of the next row of a table: one more than the greatest id, for a counting table the
greatest that the table ever had. -/
def nextId (t : Table) (counted : Int) : Except Problem Int64 :=
  let last := match t.lastId? with
    | some id => id.toInt
    | none => 0
  let next := if t.counting then max last counted + 1 else last + 1
  match int64? next with
  | some id => .ok id
  | none => .error .full

/-- The cells of a new row: values that are given, else defaults. -/
def newCells (t : Table) (env : Env) (targets : List (Option Nat)) (values : List Cell) :
    Except Problem (List Cell) :=
  t.columns.zipIdx.mapM fun entry =>
    match (targets.zip values).find? fun given => given.1 == some entry.2 with
    | some given => .ok given.2
    | none =>
      match entry.1.default with
      | some (_, e) => e.eval (env.ofRow [])
      | none => .ok .null

/-- Shows the id of a row in the column that shows it. -/
def Table.withId (t : Table) (id : Int64) (cells : List Cell) : List Cell :=
  match t.idColumn with
  | some i => cells.set i (.integer id)
  | none => cells

/-- Inserts one row.  Yields the table with the row, and the row. -/
def insertOne (t : Table) (env : Env) (counted : Int) (targets : List (Option Nat))
    (values : List Expr) : Except Problem (Table × Row) := do
  let values ← Expr.evalAll (env.ofRow []) values
  let cells ← newCells t env targets values
  let id ← match (targets.zip values).find? fun given => given.1 == none with
    | some (_, cell) => if cell.isNull then nextId t counted else givenId cell
    | none => nextId t counted
  let row : Row := ⟨id, t.withId id (t.storedCells cells)⟩
  t.check env t.rows row
  .ok ({ t with rows := Table.insertRow row t.rows }, row)

/-- Inserts rows one after another. -/
def insertAll (env : Env) (targets : List (Option Nat)) :
    Table → Int → List (List Expr) → Except Problem (Table × Int × List Row)
  | t, counted, [] => .ok (t, counted, [])
  | t, counted, values :: rest => do
    let (t, row) ← insertOne t env counted targets values
    let (t, counted, rows) ← insertAll env targets t (max counted row.id.toInt) rest
    .ok (t, counted, row :: rows)

/-- Remembers the greatest id of a counting table. -/
def Database.remember (db : Database) (t : Table) (counted : Int) : Database :=
  match db.table? sequenceName with
  | none => db
  | some sequence =>
    let cells := [Cell.text t.name, .integer (Int64.ofInt counted)]
    let isOwn := fun row : Row => row.cells.head? == some (.text t.name)
    let rows :=
      if sequence.rows.any isOwn then
        sequence.rows.map fun row => if isOwn row then { row with cells } else row
      else
        let id := match sequence.lastId? with
          | some id => id + 1
          | none => 1
        sequence.rows ++ [⟨id, cells⟩]
    db.replace { sequence with rows }

/-- Carries out an insertion. -/
def Insertion.run (insertion : Insertion) (db : Database) (enforcing : Bool) (env : Env) :
    Except Problem Outcome :=
  match db.table? insertion.table with
  | none => .error (.unknownTable insertion.table)
  | some t => do
    let (changed, counted, rows) ←
      insertAll env insertion.targets t (db.counted t) insertion.rows
    let stored := db.replace changed
    let after := if t.counting then stored.remember t counted else stored
    if enforcing then db.checkReferences after else pure ()
    let answer ← rows.mapM (returned env insertion.returning)
    .ok ⟨after, rows.getLast?.map Row.id, rows.length, returnedAnswer insertion.returning answer⟩

/-- Puts a changed row in the place of an old one. -/
def Table.exchange (t : Table) (old : Int64) (row : Row) : Table :=
  { t with rows := Table.insertRow row (t.rows.filter fun other => other.id != old) }

/-- Takes a row away. -/
def Table.drop (t : Table) (id : Int64) : Table :=
  { t with rows := t.rows.filter fun other => other.id != id }

/-- The value that a referring column takes when the row it refers to goes away or changes. -/
def followingCell (env : Env) (child : Table) (action : ReferenceAction) (i : Nat) (new : Cell) :
    Except Problem Cell :=
  match action with
  | .setNull => .ok .null
  | .setDefault =>
    match (child.columns[i]?).bind Column.default with
    | some (_, e) => e.eval (env.ofRow [])
    | none => .ok .null
  | .cascade | .refuse => .ok new

/-- The cells of a row that follows the row it refers to. -/
def followingCells (env : Env) (child : Table) (action : ReferenceAction) (fk : ForeignKey)
    (new : List Cell) (cells : List Cell) : Except Problem (List Cell) :=
  cells.zipIdx.mapM fun entry =>
    match fk.columns.idxOf? entry.2 with
    | some k => followingCell env child action entry.2 ((new[k]?).getD .null)
    | none => .ok entry.1

mutual

/-- Lets the rows that refer to a row follow its change, or its removal if there is no new row. -/
def Database.follow (env : Env) :
    Nat → Table → Row → Option Row → List (Table × ForeignKey) → Database →
      Except Problem Database
  | 0, _, _, _, _, _ => .error .endlessActions
  | _ + 1, _, _, _, [], db => .ok db
  | fuel + 1, parent, old, new, (child, fk) :: rest, db =>
    match parent.referredColumns fk with
    | none => db.follow env fuel parent old new rest
    | some columns => do
      let cellsOf := fun row : Row => columns.map fun i => (row.cells[i]?).getD .null
      let action := if new.isSome then fk.reference.onUpdate else fk.reference.onDelete
      let changesKey := match new with
        | some row => cellsOf row != cellsOf old
        | none => true
      if action == .refuse || !changesKey then db.follow env fuel parent old new rest
      else
        let rows := match db.table? child.name with
          | some t => t.rows.filter fun row => parent.refersTo columns fk.columns row.cells old
          | none => []
        let db ← match new, action with
          | none, .cascade => db.removeRows env fuel child.name rows
          | _, _ => db.followRows env fuel child.name fk action ((new.map cellsOf).getD []) rows
        db.follow env fuel parent old new rest

/-- Takes rows away, and lets the rows that refer to them follow. -/
def Database.removeRows (db : Database) (env : Env) :
    Nat → String → List Row → Except Problem Database
  | 0, _, _ => .error .endlessActions
  | _ + 1, _, [] => .ok db
  | fuel + 1, name, row :: rows =>
    match db.table? name with
    | none => .ok db
    | some t => do
      let after := db.replace (t.drop row.id)
      let db ← Database.follow env fuel t row none (after.referencesTo name) after
      db.removeRows env fuel name rows

/-- Changes rows to follow the row that they refer to. -/
def Database.followRows (db : Database) (env : Env) :
    Nat → String → ForeignKey → ReferenceAction → List Cell → List Row →
      Except Problem Database
  | 0, _, _, _, _, _ => .error .endlessActions
  | _ + 1, _, _, _, _, [] => .ok db
  | fuel + 1, name, fk, action, new, row :: rows =>
    match db.table? name with
    | none => .ok db
    | some t => do
      let cells ← followingCells env t action fk new row.cells
      let changed : Row := { row with cells := t.withId row.id (t.storedCells cells) }
      t.check env (t.rows.filter fun other => other.id != row.id) changed
      let after := db.replace (t.exchange row.id changed)
      let db ← Database.follow env fuel t row (some changed) (after.referencesTo name) after
      db.followRows env fuel name fk action new rows

end

/-- The levels that following references can take. -/
def followFuel (db : Database) : Nat :=
  db.tables.foldl (fun fuel t => fuel + t.rows.length + t.foreignKeys.length) 1000

/-- The new cells of a row that is changed. -/
def revisedCells (t : Table) (env : Env) (assignments : List (Option Nat × Expr)) (row : Row) :
    Except Problem (Int64 × List Cell) := do
  let env := env.ofRow row.slots
  let assigned ← assignments.mapM fun assignment => do
    let a ← assignment.2.eval env
    pure (assignment.1, a)
  let id ← match assigned.reverse.find? fun entry => entry.1 == none with
    | some (_, cell) => givenId cell
    | none => pure row.id
  let cells := row.cells.zipIdx.map fun entry =>
    match assigned.reverse.find? fun a => a.1 == some entry.2 with
    | some a => a.2
    | none => entry.1
  .ok (id, t.withId id (t.storedCells cells))

/-- Changes rows one after another.  Yields the changed store and the rows as they are now. -/
def reviseAll (env : Env) (enforcing : Bool) (name : String)
    (assignments : List (Option Nat × Expr)) :
    Database → List Row → Except Problem (Database × List Row)
  | db, [] => .ok (db, [])
  | db, row :: rows =>
    match db.table? name with
    | none => .ok (db, [])
    | some t => do
      let (id, cells) ← revisedCells t env assignments row
      let changed : Row := ⟨id, cells⟩
      t.check env (t.rows.filter fun other => other.id != row.id) changed
      let after := db.replace (t.exchange row.id changed)
      let after ←
        if enforcing then
          Database.follow env (followFuel db) t row (some changed) (after.referencesTo name) after
        else pure after
      let (db, revised) ← reviseAll env enforcing name assignments after rows
      .ok (db, changed :: revised)

/-- Carries out a change of rows. -/
def Revision.run (revision : Revision) (db : Database) (enforcing : Bool) (env : Env) :
    Except Problem Outcome :=
  match db.table? revision.table with
  | none => .error (.unknownTable revision.table)
  | some t => do
    let chosen ← t.meeting env revision.condition
    let (after, rows) ← reviseAll env enforcing revision.table revision.assignments db chosen
    if enforcing then db.checkReferences after else pure ()
    let answer ← rows.mapM (returned env revision.returning)
    .ok ⟨after, none, chosen.length, returnedAnswer revision.returning answer⟩

/-- Takes rows away one after another; a row that has gone already is passed over.  Yields the
changed store and the rows that were taken away. -/
def removeAll (env : Env) (enforcing : Bool) (name : String) :
    Database → List Row → Except Problem (Database × List Row)
  | db, [] => .ok (db, [])
  | db, row :: rows =>
    match db.table? name with
    | none => .ok (db, [])
    | some t =>
      match t.row? row.id with
      | none => removeAll env enforcing name db rows
      | some row => do
        let after := db.replace (t.drop row.id)
        let after ←
          if enforcing then
            Database.follow env (followFuel db) t row none (after.referencesTo name) after
          else pure after
        let (db, removed) ← removeAll env enforcing name after rows
        .ok (db, row :: removed)

/-- Carries out a removal of rows. -/
def Removal.run (removal : Removal) (db : Database) (enforcing : Bool) (env : Env) :
    Except Problem Outcome :=
  match db.table? removal.table with
  | none => .error (.unknownTable removal.table)
  | some t => do
    let chosen ← t.meeting env removal.condition
    let (after, rows) ← removeAll env enforcing removal.table db chosen
    if enforcing then db.checkReferences after else pure ()
    let answer ← rows.mapM (returned env removal.returning)
    .ok ⟨after, none, rows.length, returnedAnswer removal.returning answer⟩

/-- Removes a table.  Rows that refer to its rows follow their removal. -/
def Database.dropTable (db : Database) (enforcing : Bool) (env : Env) (t : Table) :
    Except Problem Database := do
  let emptied ←
    if enforcing && !(db.referencesTo t.name).isEmpty then do
      let (after, _) ← removeAll env true t.name db t.rows
      db.checkReferences after
      pure after
    else pure db
  let forgotten := match emptied.table? sequenceName with
    | some sequence => emptied.replace { sequence with
        rows := sequence.rows.filter fun row => row.cells.head? != some (Cell.text t.name) }
    | none => emptied
  .ok (forgotten.remove t.name)

end Registrar.Sql
