import Registrar.Sql.Operator

/-!
# Functions of a group

What the functions of a group of rows make of the values of their arguments, in the order of the
rows.  Nothing is left out before a function sees the values.
-/

namespace Registrar.Sql

open Registrar.Number

namespace Aggregate

/-- The sum of the values as reals. -/
def realSum (cells : List Cell) : Double :=
  cells.foldl (fun sum cell => sum.add cell.toReal) (Double.zero false)

/-- The sum of whole numbers, nothing if a value is no whole number. -/
def wholeSum? : List Cell → Option Int
  | [] => some 0
  | .integer n :: cells => (wholeSum? cells).map (n.toInt + ·)
  | _ => none

/-- The sum of some values: whole if all of them are, else real. -/
def sumOf (cells : List Cell) : Except Problem Cell :=
  match cells with
  | [] => .ok .null
  | cells =>
    match wholeSum? cells with
    | some n => match int64? n with
      | some n => .ok (.integer n)
      | none => .error .wholeOverflow
    | none => .ok (Cell.ofReal (realSum cells))

/-- The first of the values that come before all others in an order. -/
def extreme (wanted : Ordering) (collation : Collation) : List Cell → Cell
  | [] => .null
  | a :: as => as.foldl (fun best b => if Cell.order collation b best == wanted then b else best) a

/-- Keeps the first of equal values. -/
def dedupe (collation : Collation) : List Cell → List Cell
  | [] => []
  | a :: as => a :: (dedupe collation as).filter fun b => Cell.order collation a b != .eq

/-- The texts of some values with a separator between neighbours. -/
def joinTexts (separator : Cell) : List Cell → Cell
  | [] => .null
  | a :: as => as.foldl (fun all b => (all.concat separator).concat b) a.asText

/-- What a function makes of the values of a group, those that are nothing left out. -/
def apply (function : Aggregate) (collation : Collation) (separator : Cell) (cells : List Cell) :
    Except Problem Cell :=
  match function with
  | .count => .ok (.integer (Int64.ofNat cells.length))
  | .sum => sumOf (cells.map Cell.numeric)
  | .total => .ok (Cell.ofReal (realSum cells))
  | .avg =>
    if cells.isEmpty then .ok .null
    else .ok (Cell.ofReal ((realSum cells).div (Double.ofInt cells.length)))
  | .min => .ok (extreme .lt collation cells)
  | .max => .ok (extreme .gt collation cells)
  | .concat => .ok (joinTexts separator cells)

end Aggregate

end Registrar.Sql
