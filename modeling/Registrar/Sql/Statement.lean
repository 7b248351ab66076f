import Registrar.Sql.Expr

/-!
# Statements

The statements that a store understands, as they are written: tables and columns are names that
may or may not exist.
-/

namespace Registrar.Sql

/-- One column, or all columns, of a result. -/
inductive Output where
  /-- Every column of every table. -/
  | all
  /-- Every column of one table. -/
  | allOf (table : String)
  /-- A value, with the name it is given and the text it is written with. -/
  | value (e : Expr) (name : Option String) (source : String)

/-- How a table joins the tables before it. -/
inductive JoinKind where
  /-- Only rows that match. -/
  | inner
  /-- Rows without a match are kept once, with nothing in the columns of the table. -/
  | left
deriving DecidableEq

/-- A table to read from. -/
structure Source where
  kind : JoinKind
  table : String
  name : Option String
  on : Option Expr
  shared : List String

/-- A term to sort by. -/
structure OrderTerm where
  e : Expr
  descending : Bool
  /-- Where the term stands. -/
  place : Nat

/-- A question to the store. -/
structure Select where
  distinct : Bool
  outputs : List Output
  sources : List Source
  condition : Option Expr
  groupBy : List OrderTerm
  having : Option Expr
  orderBy : List OrderTerm
  limit : Option Expr
  offset : Option Expr

/-- What happens to rows that refer to a row that goes away or changes its key. -/
inductive ReferenceAction where
  | refuse
  | cascade
  | setNull
  | setDefault
deriving DecidableEq

/-- A reference to the rows of a table. -/
structure Reference where
  table : String
  columns : List String
  onDelete : ReferenceAction
  onUpdate : ReferenceAction

/-- A rule in the declaration of a column. -/
inductive ColumnRule where
  | nullable
  | notNull
  | primaryKey (descending autoincrement : Bool)
  | unique
  | check (rule : String) (e : Expr)
  | default (source : String) (e : Expr)
  | references (reference : Reference)
  | collate (name : String)

/-- The declaration of a column. -/
structure ColumnDecl where
  name : String
  declared : String
  rules : List ColumnRule

/-- A name in a statement, with the token that writes it. -/
structure WrittenName where
  name : String
  source : String
  place : Nat

/-- A rule in the declaration of a table. -/
inductive TableRule where
  | primaryKey (columns : List WrittenName) (autoincrement : Bool)
  | unique (columns : List WrittenName)
  | check (rule : String) (e : Expr)
  | foreignKey (columns : List String) (reference : Reference)

/-- The rows to insert. -/
inductive NewRows where
  /-- One row of defaults. -/
  | defaults
  | values (rows : List (List Expr))

/-- A statement. -/
inductive Statement where
  | select (query : Select)
  | insert (table : String) (columns : Option (List String)) (rows : NewRows)
      (returning : List Output)
  | update (table : String) (assignments : List (String × Expr)) (condition : Option Expr)
      (returning : List Output)
  | delete (table : String) (condition : Option Expr) (returning : List Output)
  | createTable (name : WrittenName) (ifMissing : Bool) (columns : List ColumnDecl)
      (rules : List TableRule)
  | createView (name : WrittenName) (ifMissing : Bool) (columns : List String) (query : Select)
  | drop (isView : Bool) (ifPresent : Bool) (name : String)
  | begin
  | commit
  | rollback
  | pragma (name : String) (value : Option String)

end Registrar.Sql
