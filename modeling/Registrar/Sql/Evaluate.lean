import Registrar.Sql.Aggregate
import Registrar.Sql.Function

/-!
# Evaluation

The value of an expression whose names have been resolved, for the row at hand.  Functions of a
group see all rows of the group; everything else in such an expression sees the row at hand.
-/

namespace Registrar.Sql

/-- What an expression is evaluated for. -/
structure Env where
  /-- The row at hand. -/
  cells : List Cell
  /-- The rows of the group at hand. -/
  group : List (List Cell)
  parameters : List Cell
  /-- The id of the row inserted last. -/
  lastId : Int64
  /-- The number of rows changed by the last change. -/
  changes : Int64

/-- Evaluates for a row. -/
def Env.ofRow (env : Env) (cells : List Cell) : Env :=
  { env with cells, group := [] }

/-- The collation of the first argument that has one. -/
def argumentCollation (arguments : List Expr) : Collation :=
  ((arguments.findSome? fun e => e.columnCollation)).getD .binary

/-- A function that tells about the store. -/
def Env.report? (env : Env) (name : String) : Option Cell :=
  match name with
  | "last_insert_rowid" => some (.integer env.lastId)
  | "changes" => some (.integer env.changes)
  | _ => none

/-- The values that a function of a group is given: what is nothing is left out, and so are
repeated values if the function asks for that. -/
def groupValues (distinct : Bool) (collation : Collation) (rows : List (List Cell)) : List Cell :=
  let firsts := rows.map fun cells => (cells.head?).getD (.integer 1)
  let present := firsts.filter fun a => !a.isNull
  if distinct then Aggregate.dedupe collation present else present

/-- The separator that the second argument of a function gives. -/
def groupSeparator (rows : List (List Cell)) : Cell :=
  match rows.getLast? with
  | some (_ :: separator :: _) => separator
  | _ => .text ","

mutual

/-- The value of an expression. -/
def Expr.eval (env : Env) : Expr → Except Problem Cell
  | .literal cell => .ok cell
  | .column _ name _ _ => .error (.unknownColumn name)
  | .slot index _ _ => .ok ((env.cells[index]?).getD .null)
  | .parameter number => .ok ((env.parameters[number - 1]?).getD .null)
  | .unary .minus (.literal (.real x)) => .ok (Cell.ofReal x.neg)
  | .unary op e => do
    let a ← e.eval env
    .ok (Cell.unary op a)
  | .binary op a b => do
    let x ← a.eval env
    let y ← b.eval env
    .ok (Cell.binary op (Expr.comparisonAffinity a b) (Expr.comparisonCollation a b) x y)
  | .between e low high => do
    let x ← e.eval env
    let l ← low.eval env
    let h ← high.eval env
    let above := Cell.comparison .ge (Expr.comparisonAffinity e low)
      (Expr.comparisonCollation e low) x l
    let below := Cell.comparison .le (Expr.comparisonAffinity e high)
      (Expr.comparisonCollation e high) x h
    .ok (Cell.ofTruth (Cell.and above below))
  | .member e items => do
    let a ← e.eval env
    let cells ← Expr.evalAll env items
    .ok (Cell.ofTruth (Cell.member e.affinity (e.columnCollation.getD .binary) a cells))
  | .pattern kind e shape none => do
    let a ← e.eval env
    let p ← shape.eval env
    Cell.matchesPattern kind p a none
  | .pattern kind e shape (some escape) => do
    let a ← e.eval env
    let p ← shape.eval env
    let c ← escape.eval env
    Cell.matchesPattern kind p a (some c)
  | .call name arguments _ _ _ => do
    let cells ← Expr.evalAll env arguments
    match env.report? name with
    | some cell => .ok cell
    | none => Cell.apply name (argumentCollation arguments) cells
  | .aggregate function arguments distinct => do
    let rows ← env.group.mapM fun cells => Expr.evalAll (env.ofRow cells) arguments
    let collation := argumentCollation arguments
    function.apply collation (groupSeparator rows) (groupValues distinct collation rows)
  | .cast e affinity => do
    let a ← e.eval env
    .ok (a.cast affinity)
  | .collate e _ => e.eval env
  | .choice none branches otherwise => do
    match ← Expr.chosen env (fun a => a.truth == some true) branches with
    | some a => .ok a
    | none => Expr.evalOr env otherwise
  | .choice (some s) branches otherwise => do
    let subject ← s.eval env
    let affinity := s.affinity
    let collation := s.columnCollation.getD .binary
    let isEqual := fun a => Cell.compareWith affinity collation subject a == some .eq
    match ← Expr.chosen env isEqual branches with
    | some a => .ok a
    | none => Expr.evalOr env otherwise

/-- The values of several expressions. -/
def Expr.evalAll (env : Env) : List Expr → Except Problem (List Cell)
  | [] => .ok []
  | e :: es => do
    let a ← e.eval env
    let as ← Expr.evalAll env es
    .ok (a :: as)

/-- The value of an expression, nothing if there is none. -/
def Expr.evalOr (env : Env) : Option Expr → Except Problem Cell
  | none => .ok .null
  | some e => e.eval env

/-- The value of the first branch whose test passes. -/
def Expr.chosen (env : Env) (passes : Cell → Bool) :
    List (Expr × Expr) → Except Problem (Option Cell)
  | [] => .ok none
  | (test, e) :: branches => do
    let a ← test.eval env
    if passes a then do
      let b ← e.eval env
      .ok (some b)
    else Expr.chosen env passes branches

end

/-- Whether a condition holds; one that is unknown does not. -/
def Expr.holds (env : Env) (e : Expr) : Except Problem Bool := do
  let a ← e.eval env
  .ok (a.truth == some true)

/-- Whether all of several conditions hold. -/
def Expr.allHold (env : Env) : List Expr → Except Problem Bool
  | [] => .ok true
  | e :: es => do
    if ← e.holds env then Expr.allHold env es else .ok false

end Registrar.Sql
