import Registrar.Proofs.Filter.Weaving

/-!
# Guarded changes

Rows are never removed or changed without a condition that says something.  A leafless condition is
accepted and compiles to nothing, so that a removal or change by it is refused before any statement
runs; a removal or change that runs has behind `WHERE` the clause of a condition with terms.
-/

namespace Registrar

open Condition

mutual

/-- A leafless condition is accepted. -/
theorem compile_of_leafless (table : String) :
    ∀ (conjunction : Conjunction) (condition : Condition),
    condition.leafless = true → ∃ clause, condition.compile table conjunction = .ok clause
  | _, .scalar _, leafless => by cases leafless
  | conjunction, .map entries, leafless => by
    rw [Condition.leafless] at leafless
    obtain ⟨clauses, accepted⟩ := compileEntries_of_leafless table entries leafless
    exact ⟨_, by rw [compile, accepted]; rfl⟩
  | conjunction, .list items, leafless => by
    unfold compile
    by_cases lists : items.any isList = true
    · rw [leafless_lists lists] at leafless
      obtain ⟨clauses, accepted⟩ := compileItems_of_leafless table items leafless
      exact ⟨_, by rw [if_pos lists, accepted]; rfl⟩
    · rw [if_neg lists]
      unfold Condition.leafless at leafless
      rw [if_neg lists] at leafless
      split at leafless
      · next only => exact compile_of_leafless table conjunction only leafless
      · cases leafless

/-- The entries of a leafless mapping are accepted. -/
theorem compileEntries_of_leafless (table : String) : ∀ (entries : List (Key × Condition)),
    leaflessEntries entries = true → ∃ clauses, compileEntries table entries = .ok clauses
  | [], _ => ⟨[], rfl⟩
  | (key, condition) :: entries, leafless => by
    rw [leaflessEntries, Bool.and_eq_true, Bool.and_eq_true] at leafless
    obtain ⟨⟨nests, first⟩, others⟩ := leafless
    obtain ⟨clauses, accepted⟩ := compileEntries_of_leafless table entries others
    cases key with
    | group nested =>
      obtain ⟨clause, compiled⟩ := compile_of_leafless table nested condition first
      exact ⟨_, by rw [compileEntries, compiled, accepted]; rfl⟩
    | not =>
      obtain ⟨clause, compiled⟩ := compile_of_leafless table .and condition first
      exact ⟨_, by rw [compileEntries, compiled, accepted]; rfl⟩
    | compare _ _ => cases nests
    | column _ => cases nests

/-- The items of a leafless list of lists are accepted. -/
theorem compileItems_of_leafless (table : String) : ∀ (items : List Condition),
    leaflessItems items = true → ∃ clauses, compileItems table items = .ok clauses
  | [], _ => ⟨[], rfl⟩
  | item :: items, leafless => by
    rw [leaflessItems, Bool.and_eq_true] at leafless
    obtain ⟨first, others⟩ := leafless
    obtain ⟨clauses, accepted⟩ := compileItems_of_leafless table items others
    obtain ⟨clause, compiled⟩ := compile_of_leafless table .and item first
    exact ⟨_, by rw [compileItems, compiled, accepted]; rfl⟩

end

/-- The clause of a leafless condition says nothing. -/
theorem isEmpty_of_leafless (table : String) {condition : Condition}
    (leafless : condition.leafless = true) :
    ∃ clause, condition.clause table = .ok clause ∧ clause.isEmpty = true := by
  obtain ⟨clause, accepted⟩ := compile_of_leafless table .and condition leafless
  have none := (leafless_iff_terms accepted).1 leafless
  exact ⟨clause, accepted, (keeps_of_compile accepted).isEmpty.2 none⟩

namespace Call

/-- Names that are no identifiers are refused. -/
theorem identifier_error {name : String} {f : Failure} (refused : identifier name = .error f) :
    ∃ rejection, f = .rejected rejection := by
  unfold identifier at refused
  split at refused
  · cases refused
  · exact ⟨_, (Except.error.inj refused).symm⟩

/-- A removal by nothing is refused. -/
theorem deleteStatement_none (table : String) :
    ∃ rejection, deleteStatement table none = .error (.rejected rejection) := by
  cases named : identifier table with
  | error f =>
    obtain ⟨rejection, rfl⟩ := identifier_error named
    exact ⟨rejection, by rw [deleteStatement, named]; rfl⟩
  | ok name =>
    obtain ⟨rfl, -⟩ := identifier_eq_ok_iff.1 named
    exact ⟨.unconditionalDelete table, by rw [deleteStatement, named]; rfl⟩

/-- A removal by a leafless condition is refused. -/
theorem deleteStatement_leafless (table : String) {condition : Condition}
    (leafless : condition.leafless = true) :
    ∃ rejection, deleteStatement table (some condition) = .error (.rejected rejection) := by
  obtain ⟨clause, accepted, nothing⟩ := isEmpty_of_leafless table leafless
  cases named : identifier table with
  | error f =>
    obtain ⟨rejection, rfl⟩ := identifier_error named
    exact ⟨rejection, by rw [deleteStatement, named]; rfl⟩
  | ok name =>
    obtain ⟨rfl, -⟩ := identifier_eq_ok_iff.1 named
    refine ⟨.unguardedDelete table, ?_⟩
    simp [deleteStatement, named, accepted, nothing, bind, Except.bind]

/-- A change by a leafless condition is refused. -/
theorem updateStatement_leafless (table : String) (values : Entries Value) {condition : Condition}
    (leafless : condition.leafless = true) :
    ∃ rejection, updateStatement table values condition = .error (.rejected rejection) := by
  obtain ⟨clause, accepted, nothing⟩ := isEmpty_of_leafless table leafless
  cases named : identifier table with
  | error f =>
    obtain ⟨rejection, rfl⟩ := identifier_error named
    exact ⟨rejection, by rw [updateStatement, named]; rfl⟩
  | ok name =>
    obtain ⟨rfl, -⟩ := identifier_eq_ok_iff.1 named
    by_cases empty : values.isEmpty = true
    · refine ⟨.emptyUpdate table, ?_⟩
      simp [updateStatement, named, empty, bind, Except.bind]
    · refine ⟨.unguardedUpdate table, ?_⟩
      simp [updateStatement, named, empty, accepted, nothing, bind, Except.bind]

/-- The statement of a removal, up to its condition. -/
def deletion (table : String) : String :=
  "DELETE FROM " ++ table

/-- The statement of a change, up to its condition. -/
def revision (table : String) (values : Entries Value) : String :=
  "UPDATE `" ++ table ++ "` SET " ++ ", ".intercalate (values.names.map (· ++ " = ?"))

/-- A statement ends with the clause of a condition that says something. -/
def Guarded (opening table : String) (condition : Condition) (statement : Statement) : Prop :=
  ∃ clause, condition.clause table = .ok clause ∧ clause.isEmpty = false ∧
    statement.text = opening ++ " WHERE " ++ clause.text

/-- A removal that is built has a condition that says something, and its parameters. -/
theorem built_deleteStatement {table : String} {condition : Option Condition}
    {statement : Statement} (built : deleteStatement table condition = .ok statement) :
    ∃ given clause, condition = some given ∧ isIdentifier table = true ∧
      given.clause table = .ok clause ∧ clause.isEmpty = false ∧
      statement = ⟨deletion table ++ " WHERE " ++ clause.text, clause.parameters⟩ := by
  obtain ⟨name, named, built⟩ := bind_eq_ok built
  obtain ⟨rfl, valid⟩ := identifier_eq_ok_iff.1 named
  cases condition with
  | none => cases built
  | some given =>
    obtain ⟨clause, accepted, built⟩ := bind_eq_ok built
    by_cases nothing : clause.isEmpty = true
    · rw [if_pos nothing] at built
      cases built
    · rw [if_neg nothing] at built
      exact ⟨given, clause, rfl, valid, accepted, Bool.not_eq_true _ ▸ nothing,
        (Except.ok.inj built).symm⟩

/-- A change that is built has a condition that says something, and the new values and the
parameters of the condition. -/
theorem built_updateStatement {table : String} {values : Entries Value} {condition : Condition}
    {statement : Statement} (built : updateStatement table values condition = .ok statement) :
    ∃ clause, isIdentifier table = true ∧ values.isEmpty = false ∧
      (∀ name ∈ values.names, isIdentifier name = true) ∧
      condition.clause table = .ok clause ∧ clause.isEmpty = false ∧
      statement = ⟨revision table values ++ " WHERE " ++ clause.text,
        values.values ++ clause.parameters⟩ := by
  obtain ⟨name, named, built⟩ := bind_eq_ok built
  obtain ⟨rfl, valid⟩ := identifier_eq_ok_iff.1 named
  by_cases empty : values.isEmpty = true
  · rw [if_pos empty] at built
    cases built
  · rw [if_neg empty] at built
    obtain ⟨clause, accepted, built⟩ := bind_eq_ok built
    by_cases nothing : clause.isEmpty = true
    · rw [if_pos nothing] at built
      cases built
    · rw [if_neg nothing] at built
      obtain ⟨columns, known, built⟩ := bind_eq_ok built
      obtain ⟨rfl, all⟩ := identifiers_eq_ok_iff.1 known
      exact ⟨clause, valid, Bool.not_eq_true _ ▸ empty, all, accepted, Bool.not_eq_true _ ▸ nothing,
        (Except.ok.inj built).symm⟩

/-- A removal that is built is guarded. -/
theorem guarded_deleteStatement {table : String} {condition : Option Condition}
    {statement : Statement} (built : deleteStatement table condition = .ok statement) :
    ∃ given, condition = some given ∧ Guarded (deletion table) table given statement := by
  obtain ⟨given, clause, same, -, accepted, speaks, rfl⟩ := built_deleteStatement built
  exact ⟨given, same, clause, accepted, speaks, rfl⟩

/-- A change that is built is guarded. -/
theorem guarded_updateStatement {table : String} {values : Entries Value} {condition : Condition}
    {statement : Statement} (built : updateStatement table values condition = .ok statement) :
    Guarded (revision table values) table condition statement := by
  obtain ⟨clause, -, -, -, accepted, speaks, rfl⟩ := built_updateStatement built
  exact ⟨clause, accepted, speaks, rfl⟩

/-- The statement of a removal begins with the word for removal. -/
theorem begins_deleteStatement {table : String} {condition : Option Condition}
    {statement : Statement} (built : deleteStatement table condition = .ok statement) :
    ∃ rest, statement.text.toList = "DELETE".toList ++ ' ' :: rest := by
  obtain ⟨given, -, clause, -, -, text⟩ := guarded_deleteStatement built
  rw [text, deletion]
  exact ⟨_, by simp only [String.toList_append, List.append_assoc]; rfl⟩

/-- The statement of a change begins with the word for change. -/
theorem begins_updateStatement {table : String} {values : Entries Value} {condition : Condition}
    {statement : Statement} (built : updateStatement table values condition = .ok statement) :
    ∃ rest, statement.text.toList = "UPDATE".toList ++ ' ' :: rest := by
  obtain ⟨clause, -, -, text⟩ := guarded_updateStatement built
  rw [text, revision]
  exact ⟨_, by simp only [String.toList_append, List.append_assoc]; rfl⟩

/-- A removal fails where its statement cannot be built, else it carries the statement out. -/
theorem outcome_delete (table : String) (condition : Option Condition) (session : Session) :
    (delete table condition).outcome session =
      match deleteStatement table condition with
      | .ok statement => (change statement).outcome session
      | .error f => (.error f, session) := by
  rw [delete, outcome_bind, outcome_lift]
  cases deleteStatement table condition <;> rfl

/-- A change fails where its statement cannot be built, else it carries the statement out. -/
theorem outcome_update (table : String) (values : Entries Value) (condition : Condition)
    (session : Session) :
    (update table values condition).outcome session =
      match updateStatement table values condition with
      | .ok statement => (change statement).outcome session
      | .error f => (.error f, session) := by
  rw [update, outcome_bind, outcome_lift]
  cases updateStatement table values condition <;> rfl

/-- A call is always refused as invalid, with nothing run and nothing changed. -/
def Refuses {α : Type} (call : Call α) : Prop :=
  ∀ session, ∃ f : Failure, f.kind = .validation ∧ call.outcome session = (.error f, session)

/-- A computation refuses an argument as invalid. -/
def Invalid {α : Type} (x : Except Failure α) : Prop :=
  ∃ f : Failure, f.kind = .validation ∧ x = .error f

/-- A step behind one that refuses is not taken. -/
theorem Invalid.bind {α β : Type} {x : Except Failure α} (invalid : Invalid x)
    (next : α → Except Failure β) : Invalid (x >>= next) := by
  obtain ⟨f, kind, rfl⟩ := invalid
  exact ⟨f, kind, rfl⟩

/-- A call that needs what is refused is refused. -/
theorem Invalid.refuses {α β : Type} {x : Except Failure β} (invalid : Invalid x)
    (next : β → Call α) : Refuses (Call.lift x >>= next) := by
  obtain ⟨f, kind, rfl⟩ := invalid
  exact fun session => ⟨f, kind, rfl⟩

/-- What stands behind a refused call is refused with it. -/
theorem Refuses.bind {α β : Type} {call : Call α} (refuses : Refuses call) (next : α → Call β) :
    Refuses (call >>= next) := by
  intro session
  obtain ⟨f, kind, failed⟩ := refuses session
  exact ⟨f, kind, outcome_bind_of_error failed⟩

/-- A call runs nothing and changes nothing, or it runs a statement that ends with the clause of a
condition that has terms, all of which are in the clause. -/
def RunsGuarded {α : Type} (call : Call α) (opening table : String) (condition : Condition) :
    Prop :=
  ∀ session, (∃ f, call.outcome session = (.error f, session)) ∨
    ∃ statement clause, (call.outcome session).2.log = entry statement :: session.log ∧
      statement.text = opening ++ " WHERE " ++ clause.text ∧
      condition.clause table = .ok clause ∧ condition.terms ≠ [] ∧
      Woven table condition.terms clause

/-- What carries out a guarded statement runs guarded. -/
theorem Guarded.runs {opening table : String} {condition : Condition} {statement : Statement}
    (guarded : Guarded opening table condition statement) {call : Call Nat} {session : Session}
    (carried : call.outcome session = (change statement).outcome session) :
    ∃ statement clause, (call.outcome session).2.log = entry statement :: session.log ∧
      statement.text = opening ++ " WHERE " ++ clause.text ∧
      condition.clause table = .ok clause ∧ condition.terms ≠ [] ∧
      Woven table condition.terms clause := by
  obtain ⟨clause, accepted, speaks, text⟩ := guarded
  have keeps := keeps_of_compile accepted
  have present : condition.terms ≠ [] := by
    intro none
    rw [keeps.isEmpty.2 none] at speaks
    cases speaks
  have logged : (call.outcome session).2.log = entry statement :: session.log := by
    rw [carried, outcome_change]
  exact ⟨statement, clause, logged, text, accepted, present, keeps.woven⟩

end Call

open Call

/-- Emptiness of a clause is leaflessness of its condition, no term is lost in a clause, and rows
are removed or changed only by conditions that have terms. -/
theorem changes_are_guarded (table : String) :
    (∀ (conjunction : Conjunction) (condition : Condition) (clause : Clause),
      condition.compile table conjunction = .ok clause →
        (clause.isEmpty = true ↔ condition.leafless = true) ∧
        (condition.leafless = true → clause.parameters = []) ∧
        Woven table condition.terms clause) ∧
    Refuses (delete table none) ∧
    (∀ condition : Condition, condition.leafless = true →
      Refuses (delete table (some condition)) ∧
      ∀ values, Refuses (update table values condition)) ∧
    (∀ condition, RunsGuarded (delete table (some condition)) (deletion table) table condition) ∧
    ∀ values condition,
      RunsGuarded (update table values condition) (revision table values) table condition := by
  refine ⟨?clauses, ?nothing, ?leafless, ?removals, ?revisions⟩
  case clauses =>
    intro conjunction condition clause accepted
    have keeps := keeps_of_compile accepted
    have none := leafless_iff_terms accepted
    refine ⟨keeps.isEmpty.trans none.symm, ?_, keeps.woven⟩
    intro leafless
    rw [keeps.woven.parameters, none.1 leafless]
    rfl
  case nothing =>
    intro session
    obtain ⟨rejection, refused⟩ := deleteStatement_none table
    exact ⟨.rejected rejection, rfl, by rw [outcome_delete, refused]⟩
  case leafless =>
    intro condition leafless
    refine ⟨?_, ?_⟩
    · intro session
      obtain ⟨rejection, refused⟩ := deleteStatement_leafless table leafless
      exact ⟨.rejected rejection, rfl, by rw [outcome_delete, refused]⟩
    · intro values session
      obtain ⟨rejection, refused⟩ := updateStatement_leafless table values leafless
      exact ⟨.rejected rejection, rfl, by rw [outcome_update, refused]⟩
  case removals =>
    intro condition session
    cases built : deleteStatement table (some condition) with
    | error f => exact .inl ⟨f, by rw [outcome_delete, built]⟩
    | ok statement =>
      obtain ⟨given, same, guarded⟩ := guarded_deleteStatement built
      obtain rfl := Option.some.inj same
      exact .inr (guarded.runs (by rw [outcome_delete, built]))
  case revisions =>
    intro values condition session
    cases built : updateStatement table values condition with
    | error f => exact .inl ⟨f, by rw [outcome_update, built]⟩
    | ok statement =>
      exact .inr ((guarded_updateStatement built).runs (by rw [outcome_update, built]))

/-- Groups, negations and lists around nothing. -/
def aroundNothing : Condition :=
  .list [.list [.map []], .map [(.not, .map [(.group .or, .map [])])]]

/-- Nesting around nothing does not make it a condition to remove rows by. -/
theorem changes_are_guarded_aroundNothing :
    aroundNothing.leafless = true ∧ Refuses (delete "users" (some aroundNothing)) := by
  have leafless : aroundNothing.leafless = true := rfl
  exact ⟨leafless, ((changes_are_guarded "users").2.2.1 aroundNothing leafless).1⟩

end Registrar
