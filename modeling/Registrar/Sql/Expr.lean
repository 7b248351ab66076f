import Registrar.Sql.Cell

/-!
# Expressions

Expressions as a statement writes them.  `Expr.column` is a name; once the tables of the statement
are known, names give way to `Expr.slot`, the position of a cell in the row at hand, with the
conversion and the order that its column brings along.
-/

namespace Registrar.Sql

/-- Operators with one operand. -/
inductive UnaryOp where
  | minus
  | plus
  | complement
  | not
  | isNull
  | notNull
deriving DecidableEq

/-- Operators with two operands. -/
inductive BinaryOp where
  | or
  | and
  | eq
  | ne
  | lt
  | le
  | gt
  | ge
  /-- Equality in which nothing equals nothing. -/
  | is
  | isNot
  | bitAnd
  | bitOr
  | shiftLeft
  | shiftRight
  | add
  | sub
  | mul
  | div
  | rem
  | concat
deriving DecidableEq

/-- Ways to match a text with a pattern. -/
inductive PatternKind where
  /-- `%` stands for any text, `_` for any character, ASCII case does not count. -/
  | like
  /-- `*` stands for any text, `?` for any character, brackets for one of several. -/
  | glob
deriving DecidableEq

/-- Functions of a group of rows. -/
inductive Aggregate where
  | count
  | sum
  | total
  | avg
  | min
  | max
  | concat
deriving DecidableEq

/-- An expression. -/
inductive Expr where
  | literal (cell : Cell)
  /-- A column by its name; `quoted` when the name is in double quotes. -/
  | column (table : Option String) (name : String) (quoted : Bool) (place : Nat)
  | slot (index : Nat) (affinity : Affinity) (collation : Collation)
  | parameter (number : Nat)
  | unary (op : UnaryOp) (e : Expr)
  | binary (op : BinaryOp) (a b : Expr)
  | between (e low high : Expr)
  | member (e : Expr) (items : List Expr)
  | pattern (kind : PatternKind) (e pattern : Expr) (escape : Option Expr)
  /-- A function by its name; `star` when its argument is a star. -/
  | call (name : String) (arguments : List Expr) (star distinct : Bool) (place : Nat)
  | aggregate (function : Aggregate) (arguments : List Expr) (distinct : Bool)
  | cast (e : Expr) (affinity : Affinity)
  | collate (e : Expr) (collation : Collation)
  | choice (subject : Option Expr) (branches : List (Expr × Expr)) (otherwise : Option Expr)

instance : Inhabited Expr := ⟨.literal .null⟩

namespace Expr

/-- The affinity that an expression brings into a comparison. -/
def affinity : Expr → Option Affinity
  | .slot _ affinity _ => some affinity
  | .cast _ affinity => some affinity
  | .collate e _ => e.affinity
  | _ => none

/-- The collation that an expression states, if it states one. -/
def statedCollation : Expr → Option Collation
  | .collate _ collation => some collation
  | .unary .plus e => e.statedCollation
  | _ => none

/-- The collation that an expression brings along from its column, if it has one. -/
def columnCollation : Expr → Option Collation
  | .slot _ _ collation => some collation
  | .collate _ collation => some collation
  | .unary .plus e => e.columnCollation
  | .cast e _ => e.columnCollation
  | _ => none

/-- The affinity under which two expressions are compared. -/
def comparisonAffinity (a b : Expr) : Option Affinity :=
  match a.affinity, b.affinity with
  | some x, some y => some (if x.isNumeric || y.isNumeric then .numeric else .blob)
  | some x, none => some x
  | none, some y => some y
  | none, none => none

/-- The collation under which two expressions are compared: a stated one first, then the left
column's, then the right column's. -/
def comparisonCollation (a b : Expr) : Collation :=
  (a.statedCollation.or (b.statedCollation.or (a.columnCollation.or b.columnCollation))).getD
    .binary

end Expr

end Registrar.Sql
