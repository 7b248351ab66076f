import Registrar.Proofs.Quiet
import Registrar.Proofs.Sql.Answering

/-!
# The table that a statement is about

A question, an insertion, a change and a removal name a table, and what they mean is about the table of
that name.
-/

namespace Registrar.Sql

variable {db : Database} {s : Store} {t : Table} {name source : String}

/-- The name of the table that a statement is about: the one it changes, or the first that it reads. -/
def Statement.subject? : Statement → Option String
  | .select query => query.sources.head?.map Source.table
  | .insert table _ _ _ | .update table _ _ _ | .delete table _ _ => some table
  | _ => none

/-- The table that an action is about: the one it changes, or the first that it reads. -/
def Action.subject? : Action → Option String
  | .select plan => (plan.relations.head?.bind Relation.table).map Table.name
  | .insert insertion => some insertion.table
  | .update revision => some revision.table
  | .delete removal => some removal.table
  | _ => none

/-- Resolving which rows of the relations match leaves the relations as they are. -/
theorem tables_of_resolveJoins {names : Names} {relations : List (Relation × Source × List Expr)}
    {joined : List Relation} (resolved : resolveJoins names relations = .ok joined) :
    joined.map Relation.table = relations.map fun r => r.1.table := by
  induction relations generalizing joined with
  | nil =>
    obtain rfl := Except.ok.inj resolved
    rfl
  | cons first others ih =>
    obtain ⟨on, -, resolved⟩ := bind_eq_ok resolved
    obtain ⟨rest, behind, resolved⟩ := bind_eq_ok resolved
    rw [← Except.ok.inj resolved, List.map_cons, List.map_cons, ih behind]

/-- A plan reads from the relations that it is made over. -/
theorem tables_of_planOver {relations : List (Relation × Source × List Expr)} {query : Select}
    {plan : Plan} (planned : planOver relations query = .ok plan) :
    plan.relations.map Relation.table = relations.map fun r => r.1.table := by
  obtain ⟨shown, -, planned⟩ := bind_eq_ok planned
  dsimp only at planned
  split at planned
  · cases planned
  obtain ⟨having, -, planned⟩ := bind_eq_ok planned
  obtain ⟨condition, -, planned⟩ := bind_eq_ok planned
  obtain ⟨joined, resolved, planned⟩ := bind_eq_ok planned
  obtain ⟨orderBy, -, planned⟩ := bind_eq_ok planned
  obtain ⟨groupBy, -, planned⟩ := bind_eq_ok planned
  obtain ⟨limit, -, planned⟩ := bind_eq_ok planned
  obtain ⟨offset, -, planned⟩ := bind_eq_ok planned
  split at planned
  · cases planned
  · rw [← Except.ok.inj planned]
    exact tables_of_resolveJoins resolved

/-- The first relation of a question is the table that the question names first. -/
theorem table_of_relations {first depth : Nat} {before : List Area} {sources : List Source}
    {relations : List (Relation × Source × List Expr)} (found : db.find? name = some (.table t))
    (about : sources.head?.map Source.table = some name)
    (read : db.relations before first (depth + 1) sources = .ok relations) :
    (relations.map fun r => r.1.table).head? = some (some t) := by
  obtain ⟨source, isFirst, rfl⟩ := Option.map_eq_some_iff.1 about
  obtain ⟨others, rfl⟩ := List.head?_eq_some_iff.1 isFirst
  obtain ⟨relation, own, read⟩ := bind_eq_ok read
  obtain ⟨equations, -, read⟩ := bind_eq_ok read
  obtain ⟨rest, -, read⟩ := bind_eq_ok read
  rw [← Except.ok.inj read]
  cases depth with
  | zero => cases own
  | succ depth =>
    rw [Database.relation, found] at own
    rw [← Except.ok.inj own]
    rfl

/-- A table that is found can be changed. -/
theorem changeable_of_find? (found : db.find? name = some (.table t)) : db.changeable name = .ok t := by
  rw [Database.changeable, found]

/-- A question is asked of the table that it names first. -/
theorem subject_of_plan {query : Select} {plan : Plan} (found : db.find? name = some (.table t))
    (about : (Statement.select query).subject? = some name) (planned : db.plan query = .ok plan) :
    (Action.select plan).subject? = some t.name := by
  obtain ⟨depth, deep⟩ : ∃ n, db.depth query = n + 2 :=
    ⟨_, (Nat.sub_add_cancel (Nat.le_trans (by omega) (le_depth db query))).symm⟩
  rw [Database.plan, deep] at planned
  obtain ⟨relations, read, planned⟩ := bind_eq_ok planned
  have first := table_of_relations found about read
  rw [← tables_of_planOver planned, List.head?_map] at first
  obtain ⟨relation, isFirst, own⟩ := Option.map_eq_some_iff.1 first
  rw [Action.subject?, isFirst, Option.bind_some, own]
  rfl

/-- A row is inserted into the table that the insertion names. -/
theorem table_of_planInsert {enforcing : Bool} {columns : Option (List String)} {rows : NewRows}
    {returning : List Output} {insertion : Insertion} (found : db.find? name = some (.table t))
    (planned : db.planInsert enforcing name columns rows returning = .ok insertion) :
    insertion.table = t.name := by
  obtain ⟨u, same, own, -⟩ := resolved_of_planInsert planned
  rw [own, Except.ok.inj ((changeable_of_find? found).symm.trans same)]

/-- A change is made to the table that it names. -/
theorem table_of_planUpdate {enforcing : Bool} {assignments : List (String × Expr)}
    {condition : Option Expr} {returning : List Output} {revision : Revision}
    (found : db.find? name = some (.table t))
    (planned : db.planUpdate enforcing name assignments condition returning = .ok revision) :
    revision.table = t.name := by
  obtain ⟨u, same, planned⟩ := bind_eq_ok planned
  obtain rfl := Except.ok.inj ((changeable_of_find? found).symm.trans same)
  obtain ⟨assigned, -, planned⟩ := bind_eq_ok planned
  obtain ⟨test, -, planned⟩ := bind_eq_ok planned
  obtain ⟨shown, -, planned⟩ := bind_eq_ok planned
  dsimp only at planned
  split at planned
  · obtain ⟨_, -, planned⟩ := bind_eq_ok planned
    obtain ⟨_, -, planned⟩ := bind_eq_ok planned
    rw [← Except.ok.inj planned]
  · rw [← Except.ok.inj planned]

/-- Rows are removed from the table that the removal names. -/
theorem table_of_planDelete {enforcing : Bool} {condition : Option Expr} {returning : List Output}
    {removal : Removal} (found : db.find? name = some (.table t))
    (planned : db.planDelete enforcing name condition returning = .ok removal) :
    removal.table = t.name := by
  obtain ⟨u, same, planned⟩ := bind_eq_ok planned
  obtain rfl := Except.ok.inj ((changeable_of_find? found).symm.trans same)
  obtain ⟨test, -, planned⟩ := bind_eq_ok planned
  obtain ⟨shown, -, planned⟩ := bind_eq_ok planned
  dsimp only at planned
  split at planned
  · obtain ⟨_, -, planned⟩ := bind_eq_ok planned
    obtain ⟨_, -, planned⟩ := bind_eq_ok planned
    rw [← Except.ok.inj planned]
  · rw [← Except.ok.inj planned]

/-- What a statement means is about the table that the statement names. -/
theorem subject_of_prepare {statement : Statement} {action : Action}
    (found : s.database.find? name = some (.table t)) (about : statement.subject? = some name)
    (prepared : s.prepare source statement = .ok action) : action.subject? = some t.name := by
  cases statement with
  | select query =>
    obtain ⟨plan, planned, prepared⟩ := bind_eq_ok prepared
    rw [← Except.ok.inj prepared]
    exact subject_of_plan found about planned
  | insert table columns rows returning =>
    obtain rfl := Option.some.inj about
    obtain ⟨insertion, planned, prepared⟩ := bind_eq_ok prepared
    rw [← Except.ok.inj prepared]
    exact congrArg some (table_of_planInsert found planned)
  | update table assignments condition returning =>
    obtain rfl := Option.some.inj about
    obtain ⟨revision, planned, prepared⟩ := bind_eq_ok prepared
    rw [← Except.ok.inj prepared]
    exact congrArg some (table_of_planUpdate found planned)
  | delete table condition returning =>
    obtain rfl := Option.some.inj about
    obtain ⟨removal, planned, prepared⟩ := bind_eq_ok prepared
    rw [← Except.ok.inj prepared]
    exact congrArg some (table_of_planDelete found planned)
  | _ => cases about

end Registrar.Sql
