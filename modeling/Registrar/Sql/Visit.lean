import Registrar.Sql.Evaluate
import Registrar.Sql.Names
import Registrar.Sql.Order

/-!
# The order of visits

A table is visited in the order of its ids, unless a key serves the question better: then its rows
come in the order of the key.  A key serves if the condition fixes or bounds its columns, or if it
holds every column that the question asks for and is narrower than the table.  A disjunction of
conditions that are each served visits the rows that meet its first part first.  Every visit is a
rearrangement of the rows.
-/

namespace Registrar.Sql

open Registrar.Text Registrar.Number

/-- How a condition limits a column. -/
inductive Limit where
  /-- To one value. -/
  | value
  /-- To several values. -/
  | values
  /-- To an interval. -/
  | interval
deriving DecidableEq

/-- The parts of a conjunction. -/
def Expr.conjuncts : Expr → List Expr
  | .binary .and a b => a.conjuncts ++ b.conjuncts
  | e => [e]

/-- The parts of a disjunction. -/
def Expr.disjuncts : Expr → List Expr
  | .binary .or a b => a.disjuncts ++ b.disjuncts
  | e => [e]

/-- The limit that an operator puts on its left side. -/
def BinaryOp.limit? : BinaryOp → Option Limit
  | .eq => some .value
  | .lt | .le | .gt | .ge => some .interval
  | _ => none

/-- The column that a condition limits, and how. -/
def Expr.limit? : Expr → Option (Nat × Limit)
  | .binary op (.slot i _ _) e =>
    if e.slots.isEmpty then op.limit?.map fun limit => (i, limit) else none
  | .binary op e (.slot i _ _) =>
    if e.slots.isEmpty then op.limit?.map fun limit => (i, limit) else none
  | .between (.slot i _ _) low high =>
    if low.slots.isEmpty && high.slots.isEmpty then some (i, .interval) else none
  | .member (.slot i _ _) items =>
    if (Expr.allSlots items).isEmpty then
      some (i, if items.length = 1 then .value else .values)
    else none
  | .binary .or a b =>
    match a.limit?, b.limit? with
    | some (i, .value), some (j, .value) | some (i, .value), some (j, .values)
    | some (i, .values), some (j, .value) | some (i, .values), some (j, .values) =>
      if i = j then some (i, .values) else none
    | _, _ => none
  | _ => none

/-- How well something serves a condition, the least number best. -/
structure Service where
  rank : Nat
  /-- The columns of the key in whose order rows come, none for the order of ids. -/
  columns : List Nat

/-- The better of two services; of equal ones the first. -/
def Service.better (a b : Option Service) : Option Service :=
  match a, b with
  | some x, some y => if y.rank < x.rank then b else a
  | some _, none => a
  | none, _ => b

/-- How well the ids of a table serve some limits. -/
def idService (slot : Nat) (limits : List (Nat × Limit)) : Option Service :=
  if limits.contains (slot, .value) then some ⟨0, []⟩
  else if limits.contains (slot, .values) then some ⟨2, []⟩
  else if limits.contains (slot, .interval) then some ⟨5, []⟩
  else none

/-- How well a key serves some limits. -/
def keyService (columns : List Nat) (limits : List (Nat × Limit)) : Option Service :=
  let isFixed := fun c => limits.contains (c, .value)
  let isListed := fun c => isFixed c || limits.contains (c, .values)
  match columns with
  | [] => none
  | c :: _ =>
    if columns.all isFixed then some ⟨1, []⟩
    else if columns.all isListed then some ⟨3, columns⟩
    else if isListed c then some ⟨4, columns⟩
    else if limits.contains (c, .interval) then some ⟨6, columns⟩
    else none

/-- The width of a column that an estimate assumes, in words. -/
def Column.width (c : Column) : Nat :=
  let name := upperAscii c.declared
  if c.declared.isEmpty then 1
  else if name = "TEXT" ∨ name = "BLOB" then 5
  else if name = "ANY" then 1
  else
    match c.affinity with
    | .text | .blob =>
      let digits := (c.declared.toList.dropWhile fun x => !isDigit x).takeWhile isDigit
      if digits.isEmpty then 5 else min 255 (digitsValue digits / 4 + 1)
    | _ => 1

namespace Table

/-- The slot of the id in a row of a table. -/
def idSlot (t : Table) : Nat :=
  t.idColumn.getD t.columns.length

/-- The width of a row that an estimate assumes. -/
def width (t : Table) : Nat :=
  t.columns.foldl (fun width column => width + column.width) (if t.idColumn.isSome then 0 else 1)

/-- The width of an entry of a key that an estimate assumes. -/
def keyWidth (t : Table) (columns : List Nat) : Nat :=
  columns.foldl (fun width i => width + ((t.columns[i]?).map Column.width).getD 1) 1

/-- How well the ids and keys of a table serve a conjunction. -/
def serviceFor (t : Table) (conjuncts : List Expr) : Option Service :=
  let limits := conjuncts.filterMap Expr.limit?
  t.keys.foldl (fun best key => Service.better best (keyService key.columns limits))
    (idService t.idSlot limits)

/-- The key that holds all columns asked for and is narrower than the table. -/
def coveringKey? (t : Table) (used : List Nat) : Option UniqueKey :=
  t.keys.find? fun key =>
    t.keyWidth key.columns < t.width &&
      used.all fun slot => slot = t.idSlot || key.columns.contains slot

/-- The cells of a row in the columns of a key. -/
def keyCells (t : Table) (columns : List Nat) (row : Row) : List SortCell :=
  columns.map fun i =>
    ⟨(row.cells[i]?).getD .null, ((t.columns[i]?).map Column.collation).getD .binary, false⟩

/-- The rows of a table in the order of a key. -/
def inOrderOf (t : Table) (columns : List Nat) (rows : List Row) : List Row :=
  if columns.isEmpty then rows else sortBy (t.keyCells columns) rows


/-- The rows in the order in which the parts of a disjunction reach them. -/
def byParts (env : Env) (t : Table) : List (Expr × Service) → List Row → List Row
  | [], rows => rows
  | (e, service) :: parts, rows =>
    let meets := fun row : Row => match e.holds (env.ofRow row.slots) with
      | .ok held => held
      | .error _ => false
    t.inOrderOf service.columns (rows.filter meets) ++
      byParts env t parts (rows.filter fun row => !meets row)

/-- The services of the parts of a disjunction, if every part has one. -/
def partServices (t : Table) : List Expr → Option (List (Expr × Service))
  | [] => some []
  | e :: es => do
    let service ← t.serviceFor e.conjuncts
    let services ← t.partServices es
    some ((e, service) :: services)

/-- The rows of a table in the order in which a question visits them. -/
def visited (t : Table) (env : Env) (used : List Nat) (condition : Option Expr) : List Row :=
  let conjuncts := (condition.map Expr.conjuncts).getD []
  match t.serviceFor conjuncts with
  | some service => t.inOrderOf service.columns t.rows
  | none =>
    let choices := conjuncts.filterMap fun e =>
      match e with
      | .binary .or _ _ => t.partServices e.disjuncts
      | _ => none
    match choices with
    | parts :: _ => byParts env t parts t.rows
    | [] =>
      match t.coveringKey? used with
      | some key => t.inOrderOf key.columns t.rows
      | none => t.rows

end Table

end Registrar.Sql
