import Registrar.Identifier
import Registrar.Sql.Plan

/-!
# Descriptions of tables

What a store tells about a table: its columns, and which of them identifies a row.
-/

namespace Registrar

open Registrar.Text

/-- The description of a column. -/
structure ColumnInfo where
  name : String
  /-- The type as it was declared, empty when none was. -/
  type : String
  notNull : Bool
  /-- The column belongs to the primary key. -/
  primaryKey : Bool
  /-- The text of the default value. -/
  default : Option String

/-- A column without a default has to be given on insertion. -/
def ColumnInfo.isRequired (column : ColumnInfo) : Bool :=
  column.default.isNone

/-- The description of a table. -/
structure TableInfo where
  /-- The name that the table was asked for by. -/
  name : String
  /-- The first column. -/
  first : ColumnInfo
  /-- The other columns, in the order of their declaration. -/
  others : List ColumnInfo

namespace TableInfo

/-- The columns, in the order of their declaration. -/
def columns (info : TableInfo) : List ColumnInfo :=
  info.first :: info.others

/-- The column that identifies a row: the first of the primary key, else the first of all. -/
def identity (info : TableInfo) : ColumnInfo :=
  (info.columns.find? ColumnInfo.primaryKey).getD info.first

/-- The columns that an insertion may give. -/
def insertColumns (info : TableInfo) : List ColumnInfo :=
  info.columns.filter fun column => column.name != info.identity.name

end TableInfo

/-- The description of a column of a table. -/
def ColumnInfo.ofColumn (column : Sql.Column) : ColumnInfo :=
  ⟨column.name, column.declared, column.notNull, column.keyPlace ≠ 0, column.default.map Prod.fst⟩

/-- The descriptions of the columns of a view. -/
def Sql.View.columnInfo (view : Sql.View) (plan : Sql.Plan) : List ColumnInfo :=
  (plan.visible view.columns).zipWith
    (fun column shown => ⟨column.name, shown.typeName, false, false, none⟩) plan.shown

/-- The columns of the catalogue of a store. -/
def catalogueColumns : List ColumnInfo :=
  [⟨"type", "TEXT", false, false, none⟩, ⟨"name", "TEXT", false, false, none⟩,
   ⟨"tbl_name", "TEXT", false, false, none⟩, ⟨"rootpage", "INT", false, false, none⟩,
   ⟨"sql", "TEXT", false, false, none⟩]

/-- The columns of the table or view of a name, none when there is no such thing. -/
def Sql.Database.columnInfo (db : Sql.Database) (name : String) : List ColumnInfo :=
  match db.find? name with
  | some (.table t) => t.columns.map ColumnInfo.ofColumn
  | some (.view v) =>
    match db.plan v.query with
    | .ok plan => v.columnInfo plan
    | .error _ => []
  | none =>
    if ["sqlite_master", "sqlite_schema"].contains (lowerAscii name) then catalogueColumns else []

/-- Describes a table. -/
def Sql.Database.describe (db : Sql.Database) (name : String) : Except Failure TableInfo := do
  let name ← identifier name
  match db.columnInfo name with
  | [] => .error (.noTable name)
  | first :: others => .ok ⟨name, first, others⟩

/-- Names that are not listed. -/
def isHiddenName (name : String) : Bool :=
  Sql.likeMatches none "sqlite_%".toList name.toList

/-- The names of the tables, in the order of their creation. -/
def Sql.Database.tableNames (db : Sql.Database) : List String :=
  (db.tables.map Sql.Table.name).filter fun name => !isHiddenName name

/-- Describes several tables, up to the first that cannot be described. -/
def Sql.Database.describeAll (db : Sql.Database) :
    List String → Except Failure (List (String × TableInfo))
  | [] => .ok []
  | name :: names => do
    let info ← db.describe name
    let infos ← db.describeAll names
    .ok ((name, info) :: infos)

end Registrar
