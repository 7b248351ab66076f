import Registrar.Clause
import Registrar.Columns
import Registrar.Join

/-!
# Questions

A question to the store as its caller builds it, and the statement that asks it.
-/

namespace Registrar

/-- A question to the store. -/
structure Question where
  table : String
  columns : Columns
  joins : List Join
  filter : Option Condition
  orderBy : List String

/-- A statement and the values of its parameters. -/
structure Statement where
  text : String
  parameters : List Value

namespace Question

/-- The question for all columns of all rows of a table. -/
def ofTable (table : String) : Question :=
  ⟨table, .all, [], none, []⟩

/-- The clause of a filter, none when there is no filter or it says nothing. -/
def filterClause (question : Question) : Except Failure (Option Clause) :=
  match question.filter with
  | none => .ok none
  | some condition => do
    let clause ← condition.clause question.table
    .ok (if clause.isEmpty then none else some clause)

/-- The statement that asks a question. -/
def statement (question : Question) : Except Failure Statement := do
  let table ← identifier question.table
  let columns ← question.columns.text
  let joins ← (Joins.start table).addAll question.joins
  let clause ← question.filterClause
  let orderBy ← identifiers question.orderBy
  let joined := if joins.isEmpty then "" else " " ++ joins.text
  let filtered := match clause with
    | some clause => " WHERE " ++ clause.text
    | none => ""
  let ordered := if orderBy.isEmpty then "" else " ORDER BY " ++ ", ".intercalate orderBy
  .ok ⟨"SELECT " ++ columns ++ " FROM " ++ table ++ joined ++ filtered ++ ordered,
    match clause with
    | some clause => clause.parameters
    | none => []⟩

end Question

end Registrar
