import Registrar.Entries
import Registrar.Value

/-!
# Rows

A row of an answer: values with the names of their columns.  A name may occur more than once.
-/

namespace Registrar

open Registrar.Text

/-- A row of an answer. -/
structure Row where
  /-- The columns and their values, in order. -/
  items : List (String × Value)

namespace Row

/-- The names of the columns. -/
def columns (row : Row) : List String :=
  row.items.map Prod.fst

/-- The values, in the order of the columns. -/
def values (row : Row) : List Value :=
  row.items.map Prod.snd

/-- The value of the first column of a name. -/
def get? (row : Row) (name : String) : Option Value :=
  (row.items.find? fun item => item.1 == name).map Prod.snd

/-- The number of columns. -/
def size (row : Row) : Nat :=
  row.items.length

/-- Whether there are no columns. -/
def isEmpty (row : Row) : Bool :=
  row.items.isEmpty

/-- The values of the columns whose names hold a mark, with spaces between them. -/
def marked (row : Row) (mark : String) : String :=
  let chosen := row.items.filter fun item => occursIn mark.toList item.1.toList
  " ".intercalate (chosen.map fun item => item.2.display)

/-- The ids of a row. -/
def id (row : Row) : String :=
  row.marked "id"

/-- The names of a row. -/
def val (row : Row) : String :=
  row.marked "val"

/-- The values by column; of columns of one name, the last value stands in the first place. -/
def entries (row : Row) : Entries Value :=
  Entries.ofList row.items

/-- The text of a row for data interchange. -/
def data (row : Row) : String :=
  Value.dataPairs row.entries.pairs

end Row

end Registrar
