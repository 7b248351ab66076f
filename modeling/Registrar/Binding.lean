import Registrar.Declared
import Registrar.Failure
import Registrar.Row
import Registrar.Sql.Plan

/-!
# Binding

Values become cells when they are bound to the parameters of a statement, and cells become values
when an answer is read.  Booleans are stored as whole numbers, dates and timestamps as text; a list
has no cell.
-/

namespace Registrar

open Registrar.Sql (Cell)

/-- The cell that a value is stored as. -/
def Value.cell? : Value → Option Cell
  | .null => some .null
  | .integer n => some (.integer n)
  | .real x => some (Cell.ofReal x)
  | .text s => some (.text s)
  | .blob bytes => some (.blob bytes)
  | .boolean b => some (.integer (if b then 1 else 0))
  | .date d => some (.text (Value.date d).display)
  | .timestamp t => some (.text (Value.timestamp t).display)
  | .list _ => none

/-- The value of a cell; text that is no well-formed text is given as its bytes. -/
def Value.ofCell : Cell → Value
  | .null => .null
  | .integer n => .integer n
  | .real x => .real x
  | .text s => .text s
  | .mangled bytes => .blob bytes
  | .blob bytes => .blob bytes

/-- The cells of some values; a list is refused. -/
def bindCells : List Value → Except StorageFault (List Cell)
  | [] => .ok []
  | value :: values =>
    match value.cell? with
    | none => .error .unboundList
    | some cell => do
      let cells ← bindCells values
      .ok (cell :: cells)

/-- Binds values to the parameters of a statement.  Counting stops at the first value too many. -/
def bindValues (needed : Nat) (values : List Value) : Except StorageFault (List Cell) := do
  let cells ← bindCells (values.take needed)
  if values.length = needed then .ok cells
  else .error (.parameterCount (min values.length (needed + 1)) needed)

/-- A row of an answer, its cells converted as the declarations of their columns say. -/
def Row.ofCells (columns : List (String × Option String)) (cells : List Cell) : Row :=
  ⟨columns.zipWith (fun column cell => (column.1, (Value.ofCell cell).declaredAs column.2)) cells⟩

/-- The rows of an answer. -/
def Row.ofAnswer (answer : Sql.Answer) : List Row :=
  answer.rows.map (Row.ofCells answer.columns)

end Registrar
