import Registrar.Sql.Evaluate
import Registrar.Sql.Names

/-!
# Integrity

The rules that the content of a store keeps: a row fits the rules of its table and agrees with no
other row in a key, and a row that refers to another table refers to a row of it.
-/

namespace Registrar.Sql

open Registrar.Text

namespace Table

/-- The name of a column, with its table. -/
def qualified (t : Table) (i : Nat) : String :=
  t.name ++ "." ++ ((t.columns[i]?).map Column.name).getD "rowid"

/-- Cells as the columns of a table keep them. -/
def storedCells (t : Table) (cells : List Cell) : List Cell :=
  t.columns.zipWith (fun c cell => Cell.store c.affinity cell) cells

/-- The first column that is nothing although it must not be. -/
def missing? (t : Table) (cells : List Cell) : Option Nat :=
  (t.columns.zip cells).findIdx? fun entry => entry.1.notNull && entry.2.isNull

/-- Whether two rows agree in some columns; what is nothing agrees with nothing. -/
def agree (t : Table) (columns : List Nat) (a b : List Cell) : Bool :=
  columns.all fun i =>
    let collation := ((t.columns[i]?).map Column.collation).getD .binary
    Cell.compareWith none collation ((a[i]?).getD .null) ((b[i]?).getD .null) == some .eq

/-- Refuses a row that breaks a rule for single rows. -/
def checkRules (t : Table) (env : Env) (row : Row) : List (String × Expr) → Except Problem Unit
  | [] => .ok ()
  | (rule, e) :: checks => do
    let a ← e.eval (env.ofRow row.slots)
    if a.truth == some false then .error (.broken (.check rule)) else t.checkRules env row checks

/-- Refuses a row that breaks a rule of its table, given the other rows of the table. -/
def check (t : Table) (env : Env) (others : List Row) (row : Row) : Except Problem Unit := do
  match t.missing? row.cells with
  | some i => .error (.broken (.notNull (t.qualified i)))
  | none => do
    t.checkRules env row t.checks
    if others.any fun other => other.id == row.id then
      .error (.broken (.unique [t.qualified (t.idColumn.getD t.columns.length)] true))
    else
      match t.keys.find? fun key => others.any fun other => t.agree key.columns row.cells other.cells with
      | some key => .error (.broken (.unique (key.columns.map t.qualified) key.primary))
      | none => .ok ()

/-- The columns of a table that a reference means, in the order of the referring columns. -/
def referredColumns (parent : Table) (fk : ForeignKey) : Option (List Nat) :=
  if fk.reference.columns.isEmpty then
    match parent.idColumn, fk.columns with
    | some i, [_] => some [i]
    | _, _ =>
      (parent.keys.find? fun key => key.primary && key.columns.length == fk.columns.length).map
        UniqueKey.columns
  else do
    let positions ← fk.reference.columns.mapM parent.columnIndex?
    if positions.map some = [parent.idColumn] ||
        parent.keys.any fun key =>
          key.columns.length == positions.length && key.columns.all positions.contains then
      some positions
    else none

/-- Whether a referring row refers to a row, by some columns of each. -/
def refersTo (parent : Table) (columns : List Nat) (child : List Nat) (cells : List Cell)
    (row : Row) : Bool :=
  (columns.zip child).all fun pair =>
    let column := parent.columns[pair.1]?
    let affinity := (column.map Column.affinity).getD .blob
    let collation := (column.map Column.collation).getD .binary
    Cell.compareWith none collation (Cell.store affinity ((cells[pair.2]?).getD .null))
      ((row.cells[pair.1]?).getD .null) == some .eq

end Table

/-- A row that refers to no row. -/
structure Dangling where
  table : String
  /-- The position of the reference among those of the table. -/
  reference : Nat
  id : Int64
  /-- What the row refers by. -/
  cells : List Cell
deriving DecidableEq

/-- Whether a row refers to no row by a reference. -/
def Database.isDangling (db : Database) (fk : ForeignKey) (row : Row) : Bool :=
  let cells := fk.columns.map fun i => (row.cells[i]?).getD .null
  if cells.any Cell.isNull then false
  else
    match db.table? fk.reference.table with
    | none => true
    | some parent =>
      match parent.referredColumns fk with
      | none => true
      | some columns => !parent.rows.any (parent.refersTo columns fk.columns row.cells)

/-- The rows of a table that refer to no row. -/
def Database.danglingOf (db : Database) (t : Table) : List Dangling :=
  t.foreignKeys.zipIdx.flatMap fun entry =>
    (t.rows.filter (db.isDangling entry.1)).map fun row =>
      ⟨t.name, entry.2, row.id, entry.1.columns.map fun i => (row.cells[i]?).getD .null⟩

/-- All rows that refer to no row. -/
def Database.dangling (db : Database) : List Dangling :=
  db.tables.flatMap db.danglingOf

/-- Refuses a change after which more rows refer to no row. -/
def Database.checkReferences (before after : Database) : Except Problem Unit :=
  let known := before.dangling
  if after.dangling.all known.contains then .ok () else .error (.broken .foreignKey)

/-- The references to a table, with the tables that hold them. -/
def Database.referencesTo (db : Database) (name : String) : List (Table × ForeignKey) :=
  db.tables.flatMap fun t =>
    (t.foreignKeys.filter fun fk => sameName fk.reference.table name).map fun fk => (t, fk)

/-- Refuses to change a table some of whose references cannot be looked up. -/
def Database.checkOutgoing (db : Database) (t : Table) : List ForeignKey → Except Fault Unit
  | [] => .ok ()
  | fk :: fks =>
    match db.table? fk.reference.table with
    | none => .error (Problem.unknownTable ("main." ++ fk.reference.table)).bare
    | some parent =>
      match parent.referredColumns fk with
      | none => .error (Problem.foreignKeyMismatch t.name fk.reference.table).bare
      | some _ => db.checkOutgoing t fks

/-- Refuses to change a table that is referred to in a way that cannot be looked up. -/
def checkIncoming (parent : Table) : List (Table × ForeignKey) → Except Fault Unit
  | [] => .ok ()
  | (child, fk) :: rest =>
    match parent.referredColumns fk with
    | none => .error (Problem.foreignKeyMismatch child.name fk.reference.table).bare
    | some _ => checkIncoming parent rest

end Registrar.Sql
