import Registrar.Entries
import Registrar.Identifier

/-!
# Joins

Tables that are joined to the table that a question starts from, each by a column that both have.
A joined table goes under its name with a running number, so that a table can be joined more than
once.  The numbers run on over all joins of a question.
-/

namespace Registrar

open Registrar.Number

/-- Tables to join. -/
inductive Join where
  /-- Each table by a column. -/
  | on (entries : Entries String)
  /-- Tables alone; the column to join by cannot be told from their names. -/
  | tables (names : List String)

/-- One joined table. -/
structure JoinClause where
  table : String
  /-- The running number of the join. -/
  number : Nat
  column : String
deriving DecidableEq

/-- The name that a joined table goes under. -/
def JoinClause.alias (clause : JoinClause) : String :=
  clause.table ++ intText clause.number

/-- A joined table as a question writes it. -/
def JoinClause.text (source : String) (clause : JoinClause) : String :=
  "LEFT JOIN " ++ clause.table ++ " AS " ++ clause.alias ++ " ON " ++ clause.alias ++ "." ++
    clause.column ++ " = " ++ source ++ "." ++ clause.column

/-- The joins of a question so far. -/
structure Joins where
  /-- The table that the question starts from. -/
  source : String
  /-- The running number of the next join. -/
  next : Nat
  clauses : List JoinClause
deriving DecidableEq

namespace Joins

/-- No joins yet. -/
def start (source : String) : Joins :=
  ⟨source, 0, []⟩

/-- How many running numbers are taken. -/
def size (joins : Joins) : Nat :=
  joins.next

/-- Whether no table is joined. -/
def isEmpty (joins : Joins) : Bool :=
  joins.clauses.isEmpty

/-- Joins one more table, under the next number. -/
def push (joins : Joins) (table column : String) : Joins :=
  { joins with
    next := joins.next + 1
    clauses := joins.clauses ++ [⟨table, joins.next, column⟩] }

/-- Joins tables one after another, up to the first whose name or column is no identifier. -/
def pushAll (joins : Joins) : List (String × String) → Joins × Option Failure
  | [] => (joins, none)
  | (table, column) :: pairs =>
    match identifiers [table, column] with
    | .ok _ => (joins.push table column).pushAll pairs
    | .error f => (joins, some f)

/-- Adds a join.  Yields the joins after it, and the failure if there is one; what was joined
before the failure stays. -/
def add (joins : Joins) : Join → Joins × Option Failure
  | .on entries => joins.pushAll entries.pairs
  | .tables names => (joins, some (.rejected (.joinWithoutKey names)))

/-- Adds joins, up to the first that fails. -/
def addAll (joins : Joins) : List Join → Except Failure Joins
  | [] => .ok joins
  | join :: rest =>
    match joins.add join with
    | (after, none) => after.addAll rest
    | (_, some f) => .error f

/-- The joins as a question writes them. -/
def text (joins : Joins) : String :=
  " ".intercalate (joins.clauses.map (JoinClause.text joins.source))

end Joins

/-- A single join as a question writes it. -/
def Join.text (source : String) (join : Join) : Except Failure String :=
  match (Joins.start source).add join with
  | (joins, none) => .ok joins.text
  | (_, some f) => .error f

end Registrar
