import Registrar.Sql.Problem
import Registrar.Sql.Statement

/-!
# Tables

What a store holds: tables with their rows, and views, in the order of their creation.  The rows of
a table are kept in the order of their ids.  Names of tables and columns are found without regard
to ASCII case.
-/

namespace Registrar.Sql

open Registrar.Text

/-- A column of a table. -/
structure Column where
  name : String
  /-- The type as it was declared, empty when none was. -/
  declared : String
  affinity : Affinity
  collation : Collation
  notNull : Bool
  /-- The place in the primary key, from one; zero outside it. -/
  keyPlace : Nat
  /-- The default value, with its text. -/
  default : Option (String × Expr)

/-- Columns in which no two rows agree. -/
structure UniqueKey where
  columns : List Nat
  primary : Bool

/-- Columns that refer to the rows of a table. -/
structure ForeignKey where
  columns : List Nat
  reference : Reference

/-- A row of a table. -/
structure Row where
  id : Int64
  cells : List Cell
deriving DecidableEq

/-- A table. -/
structure Table where
  name : String
  columns : List Column
  /-- The column that shows the id of the row. -/
  idColumn : Option Nat
  /-- Ids are never given twice. -/
  counting : Bool
  /-- The keys, the one declared last in front. -/
  keys : List UniqueKey
  /-- Rules for every row, with their text; names are slots of the row. -/
  checks : List (String × Expr)
  foreignKeys : List ForeignKey
  rows : List Row
  /-- The statement that declared the table. -/
  declaration : String

/-- A view. -/
structure View where
  name : String
  /-- The statement that declared the view. -/
  declaration : String
  columns : List String
  query : Select

/-- What has a name in a store. -/
inductive Item where
  | table (t : Table)
  | view (v : View)

/-- The name of an item. -/
def Item.name : Item → String
  | .table t => t.name
  | .view v => v.name

/-- The tables and views of a store, in the order of their creation. -/
structure Database where
  items : List Item

namespace Database

/-- A store without tables. -/
def empty : Database :=
  ⟨[]⟩

/-- The item of a name. -/
def find? (db : Database) (name : String) : Option Item :=
  db.items.find? fun item => sameName item.name name

/-- The table of a name. -/
def table? (db : Database) (name : String) : Option Table :=
  match db.find? name with
  | some (.table t) => some t
  | _ => none

/-- The tables, in the order of their creation. -/
def tables (db : Database) : List Table :=
  db.items.filterMap fun
    | .table t => some t
    | .view _ => none

/-- Puts a changed table in the place of the table of the same name. -/
def replace (db : Database) (t : Table) : Database :=
  ⟨db.items.map fun item => if sameName item.name t.name then .table t else item⟩

/-- Adds an item at the end. -/
def add (db : Database) (item : Item) : Database :=
  ⟨db.items ++ [item]⟩

/-- Takes an item away. -/
def remove (db : Database) (name : String) : Database :=
  ⟨db.items.filter fun item => !sameName item.name name⟩

end Database

namespace Table

/-- The position of a column. -/
def columnIndex? (t : Table) (name : String) : Option Nat :=
  t.columns.findIdx? fun c => sameName c.name name

/-- The row of an id. -/
def row? (t : Table) (id : Int64) : Option Row :=
  t.rows.find? fun row => row.id == id

/-- Adds a row in its place in the order of ids. -/
def insertRow (row : Row) : List Row → List Row
  | [] => [row]
  | r :: rs => if row.id.toInt < r.id.toInt then row :: r :: rs else r :: insertRow row rs

/-- The greatest id of the rows. -/
def lastId? (t : Table) : Option Int64 :=
  t.rows.getLast?.map Row.id

end Table

/-- The name of the table that keeps the greatest ids given by counting tables. -/
def sequenceName : String := "sqlite_sequence"

/-- The table that keeps the greatest ids given, without rows. -/
def sequenceTable : Table where
  name := sequenceName
  columns := [⟨"name", "", .blob, .binary, false, 0, none⟩, ⟨"seq", "", .blob, .binary, false, 0, none⟩]
  idColumn := none
  counting := false
  keys := []
  checks := []
  foreignKeys := []
  rows := []
  declaration := ""

end Registrar.Sql
