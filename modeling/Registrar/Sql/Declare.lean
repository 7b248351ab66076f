import Registrar.Sql.Names

/-!
# Declarations

Tables and views from their declarations.  A single primary key column of the type `INTEGER` shows
the id of the row; every other primary key and every unique key is a key of its own.
-/

namespace Registrar.Sql

open Registrar.Text

/-- Types that are shown in capitals however they are written. -/
def standardTypes : List String :=
  ["ANY", "BLOB", "INT", "INTEGER", "REAL", "TEXT"]

/-- A declared type as it is shown. -/
def shownType (declared : String) : String :=
  if standardTypes.contains (upperAscii declared) then upperAscii declared else declared

/-- Whether a name is kept for the store itself. -/
def isReservedName (name : String) : Bool :=
  "sqlite_".toList.isPrefixOf (lowerAscii name).toList

/-- Refuses a name that is reserved or taken.  Yields whether the name is free. -/
def Database.checkName (db : Database) (name : WrittenName) (ifMissing : Bool) :
    Except Fault Bool :=
  if isReservedName name.name then .error (Problem.reservedName name.name).bare
  else
    match db.find? name.name with
    | none => .ok true
    | some item =>
      if ifMissing then .ok false
      else
        let kind := match item with
          | .table _ => "table"
          | .view _ => "view"
        .error ((Problem.alreadyExists kind name.source).at name.place)

/-- A default value without names, if it is constant. -/
def Expr.constant? (e : Expr) : Option Expr :=
  match (Names.mk [] [] false true).resolve e with
  | .ok e => some e
  | .error _ => none

/-- A column from its declaration, its rules for the table left out. -/
def ColumnDecl.column (decl : ColumnDecl) : List ColumnRule → Column → Except Fault Column
  | [], column => .ok column
  | rule :: rules, column =>
    match rule with
    | .notNull => decl.column rules { column with notNull := true }
    | .default source e =>
      match e.constant? with
      | some e => decl.column rules { column with default := some (source, e) }
      | none => .error (Problem.variableDefault column.name).bare
    | .collate name =>
      match upperAscii name with
      | "BINARY" => decl.column rules { column with collation := .binary }
      | "NOCASE" => decl.column rules { column with collation := .nocase }
      | "RTRIM" => decl.column rules { column with collation := .rtrim }
      | _ => .error (Problem.unknownCollation name).bare
    | .nullable | .primaryKey _ _ | .unique | .check _ _ | .references _ => decl.column rules column

/-- A column without rules. -/
def ColumnDecl.bare (decl : ColumnDecl) : Column :=
  { name := decl.name, declared := shownType decl.declared,
    affinity := if upperAscii decl.declared = "ANY" then .numeric
      else Affinity.ofDeclared decl.declared,
    collation := .binary, notNull := false, keyPlace := 0, default := none }

/-- The columns of a table; no two share a name. -/
def declareColumns (known : List Column) : List ColumnDecl → Except Fault (List Column)
  | [] => .ok known
  | decl :: decls =>
    if known.any fun c => sameName c.name decl.name then
      .error (Problem.repeatedColumn decl.name).bare
    else do
      let column ← decl.column decl.rules decl.bare
      declareColumns (known ++ [column]) decls

namespace Table

/-- Adds a key.  A key of the same columns is kept, and is primary if either is. -/
def addKey (t : Table) (columns : List Nat) (primary : Bool) : Table :=
  if t.keys.any fun key => key.columns == columns then
    { t with keys := t.keys.map fun key =>
        if key.columns == columns then { key with primary := key.primary || primary } else key }
  else { t with keys := ⟨columns, primary⟩ :: t.keys }

/-- The positions of the columns of a key. -/
def keyPositions (t : Table) : List WrittenName → Except Fault (List Nat)
  | [] => .ok []
  | name :: names =>
    match t.columnIndex? name.name with
    | some i => do
      let rest ← t.keyPositions names
      .ok (i :: rest)
    | none => .error ((Problem.unknownColumn name.name).at name.place)

/-- Gives the columns of the primary key their places. -/
def withKeyPlaces (t : Table) (columns : List Nat) : Table :=
  { t with columns := t.columns.zipIdx.map fun entry =>
      match columns.idxOf? entry.2 with
      | some place => { entry.1 with keyPlace := place + 1 }
      | none => entry.1 }

/-- Adds the primary key. -/
def addPrimaryKey (t : Table) (columns : List Nat) (showsId counting : Bool) :
    Except Fault Table :=
  if t.columns.any fun c => c.keyPlace ≠ 0 then .error (Problem.secondPrimaryKey t.name).bare
  else
    let t := t.withKeyPlaces columns
    let isInteger := fun i => ((t.columns[i]?).map fun c => c.declared == "INTEGER").getD false
    match columns with
    | [i] =>
      if showsId && isInteger i then .ok { t with idColumn := some i, counting }
      else if counting then .error Problem.strayAutoincrement.bare
      else .ok (t.addKey columns true)
    | _ =>
      if counting then .error Problem.strayAutoincrement.bare else .ok (t.addKey columns true)

/-- Adds a reference. -/
def addReference (t : Table) (columns : List Nat) (reference : Reference) : Table :=
  { t with foreignKeys := ⟨columns, reference⟩ :: t.foreignKeys }

/-- Adds the rules of a column to its table. -/
def addColumnRules (t : Table) (i : Nat) (name : String) : List ColumnRule → Except Fault Table
  | [] => .ok t
  | rule :: rules =>
    match rule with
    | .primaryKey descending counting => do
      let t ← t.addPrimaryKey [i] (!descending) counting
      t.addColumnRules i name rules
    | .unique => (t.addKey [i] false).addColumnRules i name rules
    | .check rule e => { t with checks := t.checks ++ [(rule, e)] }.addColumnRules i name rules
    | .references reference =>
      if 1 < reference.columns.length then
        .error (Problem.columnReference name reference.table).bare
      else (t.addReference [i] reference).addColumnRules i name rules
    | .nullable | .notNull | .default _ _ | .collate _ => t.addColumnRules i name rules

/-- Adds the rules of all columns to their table. -/
def addAllColumnRules (t : Table) : Nat → List ColumnDecl → Except Fault Table
  | _, [] => .ok t
  | i, decl :: decls => do
    let t ← t.addColumnRules i decl.name decl.rules
    t.addAllColumnRules (i + 1) decls

/-- The positions of the columns that refer to another table. -/
def referringPositions (t : Table) : List String → Except Fault (List Nat)
  | [] => .ok []
  | name :: names =>
    match t.columnIndex? name with
    | some i => do
      let rest ← t.referringPositions names
      .ok (i :: rest)
    | none => .error (Problem.unknownReferenceColumn name).bare

/-- Adds the rules of a table. -/
def addTableRules (t : Table) : List TableRule → Except Fault Table
  | [] => .ok t
  | .primaryKey names counting :: rules => do
    let columns ← t.keyPositions names
    let t ← t.addPrimaryKey columns true counting
    t.addTableRules rules
  | .unique names :: rules => do
    let columns ← t.keyPositions names
    (t.addKey columns false).addTableRules rules
  | .check rule e :: rules => { t with checks := t.checks ++ [(rule, e)] }.addTableRules rules
  | .foreignKey names reference :: rules =>
    if reference.columns.length ≠ names.length ∧ ¬reference.columns.isEmpty then
      .error Problem.referenceCount.bare
    else do
      let columns ← t.referringPositions names
      (t.addReference columns reference).addTableRules rules

/-- Resolves the names in the rules for every row. -/
def resolveChecks (t : Table) : List (String × Expr) → Except Fault (List (String × Expr))
  | [] => .ok []
  | (rule, e) :: checks => do
    let e ← t.names.resolve e
    let rest ← t.resolveChecks checks
    .ok ((rule, e) :: rest)

end Table

/-- A table from its declaration, without rows. -/
def declareTable (name declaration : String) (decls : List ColumnDecl) (rules : List TableRule) :
    Except Fault Table := do
  let columns ← declareColumns [] decls
  let empty : Table :=
    { name, columns, idColumn := none, counting := false, keys := [], checks := [],
      foreignKeys := [], rows := [], declaration }
  let t ← empty.addAllColumnRules 0 decls
  let t ← t.addTableRules rules
  let checks ← t.resolveChecks t.checks
  .ok { t with checks }

namespace Database

/-- Adds a table, and the table of greatest ids with the first table that needs it. -/
def addTable (db : Database) (t : Table) : Database :=
  let db := if t.counting && (db.find? sequenceName).isNone then db.add (.table sequenceTable)
    else db
  db.add (.table t)

/-- Creates a table, as a statement declares it. -/
def createTable (db : Database) (declaration : String) (name : WrittenName) (ifMissing : Bool)
    (decls : List ColumnDecl) (rules : List TableRule) : Except Fault Database := do
  if ← db.checkName name ifMissing then
    let t ← declareTable name.name declaration decls rules
    .ok (db.addTable t)
  else .ok db

/-- Creates a view, as a statement declares it. -/
def createView (db : Database) (declaration : String) (name : WrittenName) (ifMissing : Bool)
    (columns : List String) (query : Select) : Except Fault Database := do
  if ← db.checkName name ifMissing then
    .ok (db.add (.view ⟨name.name, declaration, columns, query⟩))
  else .ok db

end Database

end Registrar.Sql
