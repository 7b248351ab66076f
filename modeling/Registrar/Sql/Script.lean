import Registrar.Sql.Store

/-!
# Stores as text

A store is kept in a file as the script that makes it anew: the statements that declared its tables
and views, an insertion for every row, and the greatest ids that counting tables have given.
`Database.script` writes the script and `Database.ofScript?` runs it.
-/

namespace Registrar.Sql

open Registrar.Text Registrar.Number

/-- The first line of every script. -/
def scriptHeading : String :=
  "-- a store, version 1\n"

/-- A hexadecimal digit. -/
def hexDigit (n : Nat) : Char :=
  "0123456789ABCDEF".toList.getD n '0'

/-- Bytes as a statement writes them. -/
def bytesLiteral (bytes : List UInt8) : String :=
  "X'" ++ String.ofList (bytes.flatMap fun b => [hexDigit (b.toNat / 16), hexDigit (b.toNat % 16)]) ++
    "'"

/-- A text between marks, each mark in it written twice. -/
def enclosed (mark : Char) (s : String) : String :=
  String.ofList (mark :: s.toList.flatMap (fun c => if c = mark then [c, c] else [c]) ++ [mark])

/-- A real as a statement writes it; a number too great for a real stands for infinity. -/
def realLiteral (x : Double) : String :=
  match x.view with
  | .infinite negative => if negative then "-9e999" else "9e999"
  | .nan => "NULL"
  | .finite _ _ _ => RealLayout.data.write x

/-- A cell as a statement writes it. -/
def Cell.literal : Cell → String
  | .null => "NULL"
  | .integer n => intText n.toInt
  | .real x => realLiteral x
  | .text s =>
    if s.toList.contains '\x00' then "CAST(" ++ bytesLiteral (utf8 s) ++ " AS TEXT)"
    else enclosed '\x27' s
  | .mangled bytes => "CAST(" ++ bytesLiteral bytes ++ " AS TEXT)"
  | .blob bytes => bytesLiteral bytes

/-- A name as a statement writes it. -/
def nameLiteral (name : String) : String :=
  enclosed '\x22' name

/-- A name for the ids of the rows of a table that no column has, unless a column shows them. -/
def Table.idName? (t : Table) : Option String :=
  if t.idColumn.isSome then none
  else ["rowid", "_rowid_", "oid"].find? fun name => (t.columnIndex? name).isNone

/-- The statement that inserts a row of a table. -/
def Table.insertion (t : Table) (row : Row) : String :=
  let columns := t.columns.map fun c => nameLiteral c.name
  let cells := row.cells.map Cell.literal
  let (columns, cells) := match t.idName? with
    | some name => (name :: columns, intText row.id.toInt :: cells)
    | none => (columns, cells)
  "INSERT INTO " ++ nameLiteral t.name ++ " (" ++ ", ".intercalate columns ++ ") VALUES (" ++
    ", ".intercalate cells ++ ");\n"

/-- The statements that make an item anew. -/
def Item.script : Item → String
  | .table t =>
    if t.declaration.isEmpty then ""
    else trim t.declaration ++ "\n;\n" ++ String.join (t.rows.map t.insertion)
  | .view v => trim v.declaration ++ "\n;\n"

/-- The statements that bring back the greatest ids that counting tables have given. -/
def Database.countingScript (db : Database) : String :=
  match db.table? sequenceName with
  | some sequence =>
    "DELETE FROM " ++ sequenceName ++ ";\n" ++ String.join (sequence.rows.map sequence.insertion)
  | none => ""

/-- The script that makes a store anew. -/
def Database.script (db : Database) : String :=
  scriptHeading ++ "PRAGMA foreign_keys = OFF;\n" ++ String.join (db.items.map Item.script) ++
    db.countingScript

/-- The store that a script makes, if it is a script of a store. -/
def Database.ofScript? (script : String) : Option Database :=
  if scriptHeading.toList.isPrefixOf script.toList then
    match (Store.opened .empty).script script with
    | (store, none) => some store.database
    | (_, some _) => none
  else none

end Registrar.Sql
