import Registrar.Entries
import Registrar.Failure

/-!
# Columns of a question

Which columns a question asks for, and how it writes them.
-/

namespace Registrar

open Registrar.Text

/-- The columns that a question asks for. -/
inductive Columns where
  /-- Text that is taken as it is. -/
  | raw (text : String)
  /-- Columns of tables; a table may occur more than once. -/
  | qualified (pairs : List (String × String))
  | list (names : List String)

namespace Columns

/-- All columns. -/
def all : Columns :=
  .raw "*"

/-- One column of each of several tables. -/
def ofEntries (entries : Entries String) : Columns :=
  .qualified entries.pairs

/-- A column of a table, the table in backquotes. -/
def qualifiedName (pair : String × String) : String :=
  "`" ++ pair.1 ++ "`." ++ pair.2

/-- The columns as a question writes them. -/
def written : Columns → String
  | .raw text => text
  | .qualified pairs => ", ".intercalate (pairs.map qualifiedName)
  | .list names => ", ".intercalate names

/-- The columns as a question writes them; to ask for none is refused. -/
def text (columns : Columns) : Except Failure String :=
  if isBlankText columns.written then .error (.rejected .noColumns) else .ok columns.written

end Columns

end Registrar
