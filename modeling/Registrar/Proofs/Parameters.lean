import Registrar.Proofs.Binding

/-!
# Parameters and marks

The parameters of every statement that the library builds are lined up with the marks in its text,
unless a text that is taken as it is brings marks of its own.  So a condition never makes the store
count other parameters than it is given, provided that the texts in it are sealed: text with a named
parameter, for example, has no mark but needs a value all the same.
-/

namespace Registrar

open Registrar.Sql (Store)

namespace Call

/-- A question has no list among its parameters if its filter has none in another. -/
theorem unlisted_statement {question : Question} {statement : Statement}
    (built : question.statement = .ok statement) (flat : Flat question.scalars) :
    Unlisted statement.parameters := by
  obtain ⟨-, joined, ordered, -, -, filtered⟩ := Question.built_statement built
  rcases filtered with ⟨condition, clause, given, accepted, -, rfl⟩ | ⟨-, rfl⟩
  · rw [Question.scalars, given] at flat
    exact unlisted_of_compile accepted flat
  · exact nofun

/-- Sealed questions have as many parameters as they need. -/
theorem binds_statement {question : Question} {statement : Statement}
    (built : question.statement = .ok statement) (owned : AllSealed question.owned)
    (given needed : Nat) : Binds statement (.parameterCount given needed) := by
  obtain ⟨rest, begins⟩ := Question.begins_statement built
  exact binds_of_sealed (Question.sealed_statement built owned) (by decide) begins given needed

/-- Sealed changes have as many parameters as they need. -/
theorem binds_updateStatement {table : String} {values : Entries Value} {condition : Condition}
    {statement : Statement} (built : updateStatement table values condition = .ok statement)
    (owned : AllSealed condition.owned) (given needed : Nat) :
    Binds statement (.parameterCount given needed) := by
  obtain ⟨rest, begins⟩ := begins_updateStatement built
  exact binds_of_sealed (sealed_updateStatement built owned) (by decide) begins given needed

/-- Sealed removals have as many parameters as they need. -/
theorem binds_deleteStatement {table : String} {condition : Condition} {statement : Statement}
    (built : deleteStatement table (some condition) = .ok statement)
    (owned : AllSealed condition.owned) (given needed : Nat) :
    Binds statement (.parameterCount given needed) := by
  obtain ⟨rest, begins⟩ := begins_deleteStatement built
  exact binds_of_sealed (sealed_deleteStatement built owned) (by decide) begins given needed

/-- A change has no list among its parameters if neither its values nor its condition bring one. -/
theorem unlisted_updateStatement {table : String} {values : Entries Value} {condition : Condition}
    {statement : Statement} (built : updateStatement table values condition = .ok statement)
    (new : Unlisted values.values) (flat : Flat condition.scalars) :
    Unlisted statement.parameters := by
  obtain ⟨clause, -, -, -, accepted, -, rfl⟩ := built_updateStatement built
  have filter := unlisted_of_compile accepted flat
  intro value mem
  exact (List.mem_append.1 mem).elim (new value) (filter value)

/-- A removal has no list among its parameters if its condition has none in another. -/
theorem unlisted_deleteStatement {table : String} {condition : Condition} {statement : Statement}
    (built : deleteStatement table (some condition) = .ok statement)
    (flat : Flat condition.scalars) : Unlisted statement.parameters := by
  obtain ⟨given, clause, same, -, accepted, -, rfl⟩ := built_deleteStatement built
  obtain rfl := Option.some.inj same
  exact unlisted_of_compile accepted flat

/-- A call never fails because the number of its parameters is wrong. -/
def NeverMiscounts {α : Type} (call : Call α) : Prop :=
  ∀ given needed, NeverFails call (.parameterCount given needed)

/-- The statement of an insertion gives columns of the table, in their order, each with its value. -/
structure Inserts (table : String) (values : Entries Value) (columns : List ColumnInfo)
    (pairs : List (String × Value)) : Prop where
  linedUp : LinedUp (insertStatement table pairs) (insertMarks table pairs)
  columns : (pairs.map Prod.fst).Sublist (columns.map ColumnInfo.name)
  values : ∀ pair ∈ pairs, values.get? pair.1 = some pair.2

end Call

open Call

/-- Ships by a list of crews and by name, in a list of lists. -/
def crewedShips : Condition :=
  .list [.list [.scalar (.text "crew"), .scalar (.text "IN"), .scalar (.text "9, 10")],
    .list [.scalar (.text "ships_val"), .scalar (.text "Reliant")]]

/-- A table of ships with their crews. -/
def ships : Sql.Table :=
  ⟨"ships", [⟨"crew", "INTEGER", .integer, .binary, false, 0, none⟩], none, false, [], [], [], [],
    "CREATE TABLE ships (crew INTEGER)"⟩

/-- A store with a table of ships. -/
def shipyard : Store :=
  .opened ⟨[.table ships]⟩

/-- A question by a ready-made fragment with a named parameter, which is no mark. -/
def namedCrew : Question :=
  ⟨"ships", .all, [], some (.scalar (.text "crew = :crew")), []⟩

end Registrar
