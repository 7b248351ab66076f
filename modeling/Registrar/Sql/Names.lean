import Registrar.Sql.Table

/-!
# Names in expressions

The tables of a statement stand side by side, so that a row of the statement is one list of cells.
Resolving an expression replaces every name by the slot of its cell and every function of a group
by its kind; it fails on names that mean nothing, or more than one thing.
-/

namespace Registrar.Sql

open Registrar.Text

/-- A column that a statement can name. -/
structure Visible where
  name : String
  affinity : Affinity
  collation : Collation
  declared : Option String
  /-- The column equals one of a table before it and is shown only there. -/
  merged : Bool

/-- The columns of one table of a statement. -/
structure Area where
  name : String
  columns : List Visible
  /-- The slot of the first column. -/
  first : Nat
  /-- The slot of the row's id. -/
  idSlot : Option Nat

/-- What an expression may refer to. -/
structure Names where
  areas : List Area
  /-- The outputs of the query that have names. -/
  outputs : List (String × Expr)
  /-- Functions of a group may stand here. -/
  grouping : Bool
  /-- Messages name the place of a wrong name. -/
  placed : Bool

/-- A fault with its place, if messages name places here. -/
def Names.fault (names : Names) (p : Problem) (place : Nat) : Fault :=
  if names.placed && 0 < place then p.at place else p.bare

/-- The slot of a column of an area. -/
def Area.slot (area : Area) (index : Nat) (column : Visible) : Expr :=
  .slot (area.first + index) column.affinity column.collation

/-- The slots of the columns of an area that have a name. -/
def Area.matches (area : Area) (qualified : Bool) (name : String) : List Expr :=
  area.columns.zipIdx.filterMap fun entry =>
    if sameName entry.1.name name && (qualified || !entry.1.merged) then
      some (area.slot entry.2 entry.1)
    else none

/-- Names for the id of a row, where no column has them. -/
def isIdName (name : String) : Bool :=
  ["rowid", "oid", "_rowid_"].contains (lowerAscii name)

/-- What a name may be when it is no column. -/
def Names.otherName (names : Names) (name : String) (quoted : Bool) : Option Expr :=
  match names.outputs.find? fun output => sameName output.1 name with
  | some output => some output.2
  | none =>
    if quoted then some (.literal (.text name))
    else if sameName name "true" then some (.literal (.integer 1))
    else if sameName name "false" then some (.literal (.integer 0))
    else none

/-- The meaning of a column's name. -/
def Names.column (names : Names) (table : Option String) (name : String) (quoted : Bool)
    (place : Nat) : Except Fault Expr :=
  let areas := names.areas.filter fun area =>
    match table with
    | some t => sameName area.name t
    | none => true
  let full := match table with
    | some t => t ++ "." ++ name
    | none => name
  match areas.flatMap fun area => area.matches table.isSome name with
  | [e] => .ok e
  | _ :: _ :: _ => .error (names.fault (.ambiguousColumn full) place)
  | [] =>
    let id := match areas with
      | [area] => if isIdName name then area.idSlot else none
      | _ => none
    match id, table with
    | some slot, _ => .ok (.slot slot .integer .binary)
    | none, some _ => .error (names.fault (.unknownColumn full) place)
    | none, none =>
      match names.otherName name quoted with
      | some e => .ok e
      | none => .error (names.fault (.unknownColumn full) place)

/-- The function of a group that a name and a number of arguments stand for. -/
def aggregate? (name : String) (arguments : Nat) (star : Bool) : Option Aggregate :=
  match name, arguments with
  | "count", 0 | "count", 1 => some .count
  | "sum", 1 => some .sum
  | "total", 1 => some .total
  | "avg", 1 => some .avg
  | "min", 1 => some .min
  | "max", 1 => some .max
  | "group_concat", 1 | "group_concat", 2 => if star then none else some .concat
  | _, _ => none

/-- The least and the greatest number of arguments of a function. -/
def arity? (name : String) : Option (Nat × Nat) :=
  match name with
  | "abs" | "length" | "lower" | "upper" | "typeof" | "hex" | "quote" | "unicode" | "zeroblob"
  | "sign" | "likely" | "unlikely" => some (1, 1)
  | "count" => some (0, 1)
  | "sum" | "total" | "avg" => some (1, 1)
  | "group_concat" => some (1, 2)
  | "coalesce" => some (2, 1000)
  | "min" | "max" => some (1, 1000)
  | "ifnull" | "nullif" | "instr" | "glob" => some (2, 2)
  | "iif" | "replace" => some (3, 3)
  | "round" | "trim" | "ltrim" | "rtrim" => some (1, 2)
  | "substr" | "substring" | "like" => some (2, 3)
  | "char" => some (0, 1000)
  | "last_insert_rowid" | "changes" => some (0, 0)
  | _ => none

/-- The meaning of a function's name. -/
def Names.function (names : Names) (name : String) (arguments : List Expr) (star distinct : Bool)
    (place : Nat) : Except Fault Expr :=
  let lower := lowerAscii name
  match arity? lower with
  | none => .error (names.fault (.unknownFunction name) place)
  | some (least, most) =>
    if arguments.length < least ∨ most < arguments.length ∨ (star ∧ lower ≠ "count") then
      .error (names.fault (.wrongArguments name) place)
    else
      match aggregate? lower arguments.length star with
      | some function =>
        if names.grouping then .ok (.aggregate function arguments distinct)
        else .error (names.fault (.misplacedAggregate name) place)
      | none => .ok (.call lower arguments star distinct place)

mutual

/-- The functions of a group that occur in an expression. -/
def Expr.aggregates : Expr → List Expr
  | .aggregate function arguments distinct => [.aggregate function arguments distinct]
  | .literal _ | .column _ _ _ _ | .slot _ _ _ | .parameter _ => []
  | .unary _ e | .cast e _ | .collate e _ => e.aggregates
  | .binary _ a b => a.aggregates ++ b.aggregates
  | .between e low high => e.aggregates ++ low.aggregates ++ high.aggregates
  | .member e items => e.aggregates ++ Expr.allAggregates items
  | .pattern _ e shape escape => e.aggregates ++ shape.aggregates ++ Expr.aggregatesOf escape
  | .call _ arguments _ _ _ => Expr.allAggregates arguments
  | .choice subject branches otherwise =>
    Expr.aggregatesOf subject ++ Expr.branchAggregates branches ++ Expr.aggregatesOf otherwise

/-- The functions of a group that occur in several expressions. -/
def Expr.allAggregates : List Expr → List Expr
  | [] => []
  | e :: es => e.aggregates ++ Expr.allAggregates es

/-- The functions of a group that occur in an expression, if there is one. -/
def Expr.aggregatesOf : Option Expr → List Expr
  | none => []
  | some e => e.aggregates

/-- The functions of a group that occur in the branches of a choice. -/
def Expr.branchAggregates : List (Expr × Expr) → List Expr
  | [] => []
  | (test, e) :: branches => test.aggregates ++ e.aggregates ++ Expr.branchAggregates branches

end

mutual

/-- The slots that occur in an expression. -/
def Expr.slots : Expr → List Nat
  | .slot index _ _ => [index]
  | .literal _ | .column _ _ _ _ | .parameter _ => []
  | .unary _ e | .cast e _ | .collate e _ => e.slots
  | .binary _ a b => a.slots ++ b.slots
  | .between e low high => e.slots ++ low.slots ++ high.slots
  | .member e items => e.slots ++ Expr.allSlots items
  | .pattern _ e shape escape => e.slots ++ shape.slots ++ Expr.slotsOf escape
  | .call _ arguments _ _ _ | .aggregate _ arguments _ => Expr.allSlots arguments
  | .choice subject branches otherwise =>
    Expr.slotsOf subject ++ Expr.branchSlots branches ++ Expr.slotsOf otherwise

/-- The slots that occur in several expressions. -/
def Expr.allSlots : List Expr → List Nat
  | [] => []
  | e :: es => e.slots ++ Expr.allSlots es

/-- The slots that occur in an expression, if there is one. -/
def Expr.slotsOf : Option Expr → List Nat
  | none => []
  | some e => e.slots

/-- The slots that occur in the branches of a choice. -/
def Expr.branchSlots : List (Expr × Expr) → List Nat
  | [] => []
  | (test, e) :: branches => test.slots ++ e.slots ++ Expr.branchSlots branches

end

mutual

/-- Replaces the names in an expression by what they stand for. -/
def Names.resolve (names : Names) : Expr → Except Fault Expr
  | .literal cell => .ok (.literal cell)
  | .column table name quoted place => names.column table name quoted place
  | .slot i affinity collation => .ok (.slot i affinity collation)
  | .parameter n => .ok (.parameter n)
  | .unary op e => do
    let e ← names.resolve e
    .ok (.unary op e)
  | .binary op a b => do
    let a ← names.resolve a
    let b ← names.resolve b
    .ok (.binary op a b)
  | .between e low high => do
    let e ← names.resolve e
    let low ← names.resolve low
    let high ← names.resolve high
    .ok (.between e low high)
  | .member e items => do
    let e ← names.resolve e
    let items ← names.resolveAll items
    .ok (.member e items)
  | .pattern kind e shape escape => do
    let e ← names.resolve e
    let shape ← names.resolve shape
    let escape ← names.resolveOption escape
    .ok (.pattern kind e shape escape)
  | .call name arguments star distinct place => do
    let inner := if (aggregate? (lowerAscii name) arguments.length star).isSome then
      { names with grouping := false } else names
    let arguments ← inner.resolveAll arguments
    names.function name arguments star distinct place
  | .aggregate function arguments distinct => do
    let arguments ← names.resolveAll arguments
    .ok (.aggregate function arguments distinct)
  | .cast e affinity => do
    let e ← names.resolve e
    .ok (.cast e affinity)
  | .collate e collation => do
    let e ← names.resolve e
    .ok (.collate e collation)
  | .choice subject branches otherwise => do
    let subject ← names.resolveOption subject
    let branches ← names.resolveBranches branches
    let otherwise ← names.resolveOption otherwise
    .ok (.choice subject branches otherwise)

/-- Replaces the names in an expression, if there is one. -/
def Names.resolveOption (names : Names) : Option Expr → Except Fault (Option Expr)
  | none => .ok none
  | some e => do
    let e ← names.resolve e
    .ok (some e)

/-- Replaces the names in several expressions. -/
def Names.resolveAll (names : Names) : List Expr → Except Fault (List Expr)
  | [] => .ok []
  | e :: es => do
    let e ← names.resolve e
    let es ← names.resolveAll es
    .ok (e :: es)

/-- Replaces the names in the branches of a choice. -/
def Names.resolveBranches (names : Names) :
    List (Expr × Expr) → Except Fault (List (Expr × Expr))
  | [] => .ok []
  | (test, e) :: branches => do
    let test ← names.resolve test
    let e ← names.resolve e
    let branches ← names.resolveBranches branches
    .ok ((test, e) :: branches)

end

/-- The names of a table's own columns, from a slot on. -/
def Table.area (t : Table) (name : String) (first : Nat) : Area where
  name
  columns := t.columns.map fun c => ⟨c.name, c.affinity, c.collation, some c.declared, false⟩
  first
  idSlot := some (match t.idColumn with
    | some i => first + i
    | none => first + t.columns.length)

/-- The names of a statement about one table. -/
def Table.names (t : Table) : Names :=
  ⟨[t.area t.name 0], [], false, true⟩

/-- The cells of a row, its id behind them. -/
def Row.slots (row : Row) : List Cell :=
  row.cells ++ [.integer row.id]

end Registrar.Sql
