import Registrar.Sql.Expr
import Registrar.Sql.Problem

/-!
# Operators

What the operators do to cells.  Logic has three values: nothing stands for unknown.  Arithmetic
on whole numbers that leaves 64 bits goes on in reals, and a result that is no number is nothing.
-/

namespace Registrar.Sql

open Registrar.Number

namespace Cell

/-- A real result; what is no number is nothing. -/
def ofReal (x : Double) : Cell :=
  if x.isNan then .null else .real x

/-- Conjunction: false if either side is false, else unknown if either side is unknown. -/
def and (a b : Option Bool) : Option Bool :=
  match a, b with
  | some false, _ | _, some false => some false
  | some true, some true => some true
  | _, _ => none

/-- Disjunction: true if either side is true, else unknown if either side is unknown. -/
def or (a b : Option Bool) : Option Bool :=
  match a, b with
  | some true, _ | _, some true => some true
  | some false, some false => some false
  | _, _ => none

/-- Whether an order is what an operator asks for. -/
def orderMeets (op : BinaryOp) (o : Ordering) : Bool :=
  match op with
  | .eq | .is => o == .eq
  | .ne | .isNot => o != .eq
  | .lt => o == .lt
  | .le => o != .gt
  | .gt => o == .gt
  | .ge => o != .lt
  | _ => false

/-- The truth of a comparison. -/
def comparison (op : BinaryOp) (affinity : Option Affinity) (collation : Collation) (a b : Cell) :
    Option Bool :=
  match op with
  | .is => some (if a.isNull || b.isNull then a.isNull && b.isNull
      else (compareWith affinity collation a b) == some .eq)
  | .isNot => some !(if a.isNull || b.isNull then a.isNull && b.isNull
      else (compareWith affinity collation a b) == some .eq)
  | op => (compareWith affinity collation a b).map (orderMeets op)

/-- The result of an operation on whole numbers, or on reals where it leaves 64 bits. -/
def wholeOrReal (exact : Int) (approximate : Double) : Cell :=
  match int64? exact with
  | some n => .integer n
  | none => ofReal approximate

/-- Addition, subtraction and multiplication. -/
def arithmetic (whole : Int → Int → Int) (real : Double → Double → Double) (a b : Cell) : Cell :=
  match a.toNumber, b.toNumber with
  | .null, _ | _, .null => .null
  | .integer m, .integer n =>
    wholeOrReal (whole m.toInt n.toInt) (real (Double.ofInt m.toInt) (Double.ofInt n.toInt))
  | a, b => ofReal (real a.toReal b.toReal)

/-- Division: whole numbers give the quotient cut toward zero, and nothing is divided by zero. -/
def divide (a b : Cell) : Cell :=
  match a.toNumber, b.toNumber with
  | .null, _ | _, .null => .null
  | .integer m, .integer n =>
    if n = 0 then .null
    else wholeOrReal (m.toInt.tdiv n.toInt) ((Double.ofInt m.toInt).div (Double.ofInt n.toInt))
  | a, b => if b.toReal.isZero then .null else ofReal (a.toReal.div b.toReal)

/-- The remainder of the division of whole numbers, with the sign of the first. -/
def remainder (a b : Cell) : Cell :=
  let x := a.toNumber
  let y := b.toNumber
  if x.isNull || y.isNull then .null
  else if y.toInt64 = 0 then .null
  else
    let rest := x.toInt64.toInt.tmod y.toInt64.toInt
    match x, y with
    | .integer _, .integer _ => .integer (Int64.ofInt rest)
    | _, _ => .real (Double.ofInt rest)

/-- Shifts the bits of a whole number to the left, by a negative amount to the right. -/
def shiftLeft (n : Int64) (amount : Int) : Int64 :=
  if 0 ≤ amount then
    if 64 ≤ amount then 0 else Int64.ofInt (n.toInt * Nat.pow 2 amount.toNat)
  else if amount ≤ -64 then (if n < 0 then -1 else 0)
  else Int64.ofInt (n.toInt.fdiv (Nat.pow 2 (-amount).toNat))

/-- An operation on the bits of whole numbers. -/
def bitwise (op : Int64 → Int64 → Int64) (a b : Cell) : Cell :=
  if a.isNull || b.isNull then .null else .integer (op a.toInt64 b.toInt64)

/-- One text behind another. -/
def concat (a b : Cell) : Cell :=
  if a.isNull || b.isNull then .null else ofTextBytes (a.bytesOf ++ b.bytesOf)

/-- What an operator with one operand does. -/
def unary (op : UnaryOp) (a : Cell) : Cell :=
  match op with
  | .minus => arithmetic (fun _ n => -n) (fun x y => x.sub y) (.integer 0) a
  | .plus => a
  | .complement => if a.isNull then .null else .integer (~~~a.toInt64)
  | .not => ofTruth (a.truth.map (! ·))
  | .isNull => ofTruth (some a.isNull)
  | .notNull => ofTruth (some !a.isNull)

/-- What an operator with two operands does. -/
def binary (op : BinaryOp) (affinity : Option Affinity) (collation : Collation) (a b : Cell) :
    Cell :=
  match op with
  | .or => ofTruth (Cell.or a.truth b.truth)
  | .and => ofTruth (Cell.and a.truth b.truth)
  | .bitAnd => bitwise (· &&& ·) a b
  | .bitOr => bitwise (· ||| ·) a b
  | .shiftLeft => bitwise (fun m n => shiftLeft m n.toInt) a b
  | .shiftRight => bitwise (fun m n => shiftLeft m (-n.toInt)) a b
  | .add => arithmetic (· + ·) Double.add a b
  | .sub => arithmetic (· - ·) Double.sub a b
  | .mul => arithmetic (· * ·) Double.mul a b
  | .div => divide a b
  | .rem => remainder a b
  | .concat => concat a b
  | op => ofTruth (comparison op affinity collation a b)

/-- The truth of membership in a list: unknown if no item is equal but one is unknown. -/
def member (affinity : Option Affinity) (collation : Collation) (a : Cell) (items : List Cell) :
    Option Bool :=
  items.foldl (fun found item => Cell.or found (comparison .eq affinity collation a item))
    (some false)

end Cell

end Registrar.Sql
