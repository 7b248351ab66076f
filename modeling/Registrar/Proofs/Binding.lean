import Registrar.Proofs.Sql.Counting
import Registrar.Proofs.Statements

/-!
# Binding parameters

What can keep the parameters of a statement from being bound: a list among them, or a statement that
needs more or fewer.  Building a statement only ever refuses arguments, so a call fails to bind
parameters only where the statement that it carries out does.
-/

namespace Registrar

open Registrar.Sql (Store Sealed)

/-- A computation fails only by refusing an argument. -/
def Rejects {α : Type} (x : Except Failure α) : Prop :=
  ∀ f, x = .error f → ∃ rejection, f = .rejected rejection

namespace Rejects

variable {α β : Type}

/-- A result is no failure. -/
theorem ok (a : α) : Rejects (.ok a) :=
  nofun

/-- A refusal refuses. -/
theorem rejected (rejection : Rejection) : Rejects (α := α) (.error (.rejected rejection)) := by
  intro f same
  exact ⟨rejection, (Except.error.inj same).symm⟩

/-- Steps that only refuse make a computation that only refuses. -/
theorem bind {x : Except Failure α} {next : α → Except Failure β} (first : Rejects x)
    (rest : ∀ a, Rejects (next a)) : Rejects (x >>= next) := by
  intro f failed
  cases x with
  | error g =>
    obtain rfl : g = f := Except.error.inj failed
    exact first g rfl
  | ok a => exact rest a f failed

/-- Names are refused if they are no identifiers. -/
theorem identifier (name : String) : Rejects (Registrar.identifier name) := by
  unfold Registrar.identifier
  split
  · exact .ok name
  · exact .rejected _

/-- Several names are refused if one is no identifier. -/
theorem identifiers (names : List String) : Rejects (Registrar.identifiers names) := by
  induction names with
  | nil => exact .ok []
  | cons name names ih => exact (identifier name).bind fun _ => ih.bind fun _ => .ok _

/-- A comparison is refused if its operator does not take the value. -/
theorem ofColumn (column operator : String) (condition : Condition) :
    Rejects (condition.ofColumn column operator) := by
  refine .bind ?_ fun value => ?_
  · cases condition with
    | scalar value => exact .ok value
    | map entries => exact .rejected _
    | list items => exact .rejected _
  · unfold Clause.comparison
    split
    · split
      · exact .ok _
      · exact .rejected _
    · exact .ok _

/-- A name is refused if it is no text. -/
theorem name? (condition : Condition) : Rejects condition.name? := by
  unfold Condition.name?
  split
  · exact .ok _
  · exact .rejected _

/-- A bare value is refused if it is no number and no text. -/
theorem ofScalar (table : String) (value : Value) : Rejects (Condition.ofScalar table value) := by
  unfold Condition.ofScalar
  split
  · exact .ok _
  · split
    · exact .ok _
    · split
      · exact .ok _
      · exact .ok _
  · exact .rejected _

mutual

/-- A condition is refused or accepted. -/
theorem compile (table : String) : ∀ (conjunction : Conjunction) (condition : Condition),
    Rejects (condition.compile table conjunction)
  | _, .scalar value => ofScalar table value
  | _, .map entries => (compileEntries table entries).bind fun _ => .ok _
  | conjunction, .list items => by
    unfold Condition.compile
    split
    · exact (compileItems table items).bind fun _ => .ok _
    · split
      · exact compile table conjunction _
      · exact (name? _).bind fun _ => ofColumn _ _ _
      · exact (name? _).bind fun _ => (name? _).bind fun _ => ofColumn _ _ _
      · exact .rejected _

/-- The entries of a mapping are refused or accepted. -/
theorem compileEntries (table : String) : ∀ entries : List (Key × Condition),
    Rejects (Condition.compileEntries table entries)
  | [] => .ok []
  | (.group nested, condition) :: entries =>
    (compile table nested condition).bind fun _ => (compileEntries table entries).bind fun _ => .ok _
  | (.not, condition) :: entries =>
    (compile table .and condition).bind fun _ => (compileEntries table entries).bind fun _ => .ok _
  | (.compare column operator, condition) :: entries =>
    (ofColumn column operator condition).bind fun _ =>
      (compileEntries table entries).bind fun _ => .ok _
  | (.column column, condition) :: entries =>
    (ofColumn column "=" condition).bind fun _ => (compileEntries table entries).bind fun _ => .ok _

/-- The items of a list are refused or accepted. -/
theorem compileItems (table : String) : ∀ items : List Condition,
    Rejects (Condition.compileItems table items)
  | [] => .ok []
  | item :: items =>
    (compile table .and item).bind fun _ => (compileItems table items).bind fun _ => .ok _

end

/-- Joins are refused if they have no columns, or names that are no identifiers. -/
theorem addAll (joins : Joins) (added : List Join) : Rejects (joins.addAll added) := by
  rw [Joins.addAll_eq]
  split
  · exact .ok _
  · next f refused =>
    obtain ⟨join, -, own⟩ := List.exists_of_findSome?_eq_some refused
    cases join with
    | on entries =>
      obtain ⟨name, -, rfl⟩ := Option.map_eq_some_iff.1 own
      exact .rejected _
    | tables names =>
      obtain rfl := Option.some.inj own
      exact .rejected _

/-- A question is refused or built. -/
theorem statement (question : Question) : Rejects question.statement := by
  refine (identifier _).bind fun _ => .bind ?_ fun _ => (addAll _ _).bind fun _ => .bind ?_ fun _ =>
    (identifiers _).bind fun _ => .ok _
  · unfold Columns.text
    split
    · exact .rejected _
    · exact .ok _
  · unfold Question.filterClause
    split
    · exact .ok none
    · exact (compile _ _ _).bind fun _ => .ok _

/-- A change is refused or built. -/
theorem updateStatement (table : String) (values : Entries Value) (condition : Condition) :
    Rejects (Call.updateStatement table values condition) := by
  refine (identifier _).bind fun _ => ?_
  split
  · exact .rejected _
  · refine (compile _ _ _).bind fun _ => ?_
    split
    · exact .rejected _
    · exact (identifiers _).bind fun _ => .ok _

/-- A removal is refused or built. -/
theorem deleteStatement (table : String) (condition : Option Condition) :
    Rejects (Call.deleteStatement table condition) := by
  refine (identifier _).bind fun _ => ?_
  split
  · exact .rejected _
  · refine (compile _ _ _).bind fun _ => ?_
    split
    · exact .rejected _
    · exact .ok _

end Rejects

/-- A failure of the store that is no refusal of a statement, and that no change finds out by
itself: it comes from binding parameters. -/
def StorageFault.IsBinding : StorageFault → Prop
  | .parameterCount _ _ | .unboundList => True
  | _ => False

/-- A list is refused only if there is one. -/
theorem bindCells_of_unlisted {values : List Value} (unlisted : Unlisted values) :
    ∃ cells, bindCells values = .ok cells := by
  induction values with
  | nil => exact ⟨[], rfl⟩
  | cons value values ih =>
    obtain ⟨cells, bound⟩ := ih fun other mem => unlisted other (List.mem_cons_of_mem value mem)
    have single := unlisted value List.mem_cons_self
    cases value with
    | list items => cases single
    | _ => exact ⟨_ :: cells, by rw [bindCells, Value.cell?, bound]; rfl⟩

/-- A list is what keeps values from being bound if none is wanting. -/
theorem unboundList_of_bindCells {values : List Value} {fault : StorageFault}
    (failed : bindCells values = .error fault) : fault = .unboundList := by
  induction values with
  | nil => cases failed
  | cons value values ih =>
    rw [bindCells] at failed
    split at failed
    · exact (Except.error.inj failed).symm
    · cases rest : bindCells values with
      | error other =>
        rw [rest] at failed
        obtain rfl : other = fault := Except.error.inj failed
        exact ih rest
      | ok cells =>
        rw [rest] at failed
        cases failed

/-- Values without lists are bound, unless their number is wrong. -/
theorem bindValues_ne_unboundList {values : List Value} (unlisted : Unlisted values) (needed : Nat) :
    bindValues needed values ≠ .error .unboundList := by
  have taken : Unlisted (values.take needed) :=
    fun value mem => unlisted value (List.mem_of_mem_take mem)
  obtain ⟨cells, bound⟩ := bindCells_of_unlisted taken
  intro failed
  simp only [bindValues, bound, bind, Except.bind] at failed
  split at failed
  · cases failed
  · exact nomatch failed

/-- As many values as are needed are bound, unless there is a list. -/
theorem bindValues_ne_parameterCount (values : List Value) (given needed : Nat) :
    bindValues values.length values ≠ .error (.parameterCount given needed) := by
  intro failed
  simp only [bindValues, bind, Except.bind, if_true] at failed
  split at failed
  · next fault unbound =>
    obtain rfl := Except.error.inj failed
    cases unboundList_of_bindCells unbound
  · cases failed

namespace Call

/-- Parameters are bound to a statement that means something. -/
theorem bindValues_of_ready {store : Store} {statement : Statement} {fault : StorageFault}
    (binding : fault.IsBinding) (failed : ready store statement = .error fault) :
    ∃ found, store.ready statement.text = .ok found ∧
      bindValues found.parameters statement.parameters = .error fault := by
  unfold ready at failed
  split at failed
  · rw [← Except.error.inj failed] at binding
    cases binding
  · next found means =>
    refine ⟨found, means, ?_⟩
    cases bound : bindValues found.parameters statement.parameters with
    | error other =>
      rw [bound] at failed
      exact congrArg Except.error (Except.error.inj failed)
    | ok cells =>
      simp only [bound, bind, Except.bind] at failed
      split at failed
      · cases failed
      · rw [← Except.error.inj failed] at binding
        cases binding

/-- What keeps a statement from being carried out is found out when it is made ready, or the store
refuses the statement. -/
theorem ready_of_runOn {store : Store} {statement : Statement} {fault : StorageFault}
    (binding : fault.IsBinding) (failed : runOn store statement = .error fault) :
    ready store statement = .error fault := by
  unfold runOn at failed
  cases means : ready store statement with
  | error other =>
    rw [means] at failed
    exact congrArg Except.error (Except.error.inj failed)
  | ok found =>
    rw [means] at failed
    simp only [bind, Except.bind] at failed
    split at failed
    · cases failed
    · rw [← Except.error.inj failed] at binding
      cases binding

/-- A change fails to bind its parameters only where its statement does. -/
theorem ready_of_changeOn {store : Store} {statement : Statement} {fault : StorageFault}
    (binding : fault.IsBinding) (failed : (changeOn store statement).1 = .error fault) :
    ∃ begun, ready begun statement = .error fault := by
  have other : ∀ e, StorageFault.statement e ≠ fault := by
    rintro e rfl
    cases binding
  unfold changeOn at failed
  split at failed
  · exact absurd (Except.error.inj failed) (other _)
  · split at failed
    · next ran =>
      obtain rfl := Except.error.inj failed
      exact ⟨_, ready_of_runOn binding ran⟩
    · split at failed
      · split at failed
        · exact absurd (Except.error.inj failed) (other _)
        · cases failed
      · rw [← Except.error.inj failed] at binding
        cases binding

/-- A statement is never kept from being carried out by a failure to bind its parameters. -/
def Binds (statement : Statement) (fault : StorageFault) : Prop :=
  ∀ store, ready store statement ≠ .error fault

/-- Parameters without lists are bound. -/
theorem binds_of_unlisted {statement : Statement} (unlisted : Unlisted statement.parameters) :
    Binds statement .unboundList := by
  intro store failed
  have binding : StorageFault.IsBinding .unboundList := trivial
  obtain ⟨found, -, unbound⟩ := bindValues_of_ready binding failed
  exact bindValues_ne_unboundList unlisted found.parameters unbound

/-- A sealed question, change or removal has as many parameters as it needs. -/
theorem binds_of_sealed {statement : Statement} {word : String} {rest : List Char}
    (whole : Sealed statement.parameters.length statement.text.toList)
    (known : word ∈ Sql.conditionWords) (begins : statement.text.toList = word.toList ++ ' ' :: rest)
    (given needed : Nat) : Binds statement (.parameterCount given needed) := by
  intro store failed
  have binding : StorageFault.IsBinding (.parameterCount given needed) := trivial
  obtain ⟨found, means, unbound⟩ := bindValues_of_ready binding failed
  have count : found.parameters = statement.parameters.length := by
    unfold Store.ready at means
    split at means
    · cases means
    · next parsed read =>
      obtain ⟨present, count⟩ := Sql.parameters_of_parse whole known begins read
      split at means
      · next none =>
        rw [none] at present
        cases present
      · split at means
        · cases means
        · rw [← Except.ok.inj means]
          exact count
  rw [count] at unbound
  exact bindValues_ne_parameterCount statement.parameters given needed unbound

/-- A call never fails because of a fault of the store. -/
def NeverFails {α : Type} (call : Call α) (fault : StorageFault) : Prop :=
  ∀ session f after, call.outcome session = (.error f, after) → f ≠ .storage fault

namespace NeverFails

variable {fault : StorageFault}

/-- A question never fails to bind the parameters of its statement. -/
theorem select {question : Question} (binding : fault.IsBinding)
    (binds : ∀ statement, question.statement = .ok statement → Binds statement fault) :
    NeverFails (Call.select question) fault := by
  intro session f after yields same
  subst same
  rw [outcome_select] at yields
  split at yields
  · next statement built =>
    rw [outcome_query] at yields
    split at yields
    · next ran =>
      obtain rfl := Failure.storage.inj (Except.error.inj (Prod.mk.inj yields).1)
      exact binds statement built _ (ready_of_runOn binding ran)
    · cases (Prod.mk.inj yields).1
  · next refused =>
    obtain rfl := Except.error.inj (Prod.mk.inj yields).1
    obtain ⟨rejection, same⟩ := Rejects.statement question _ refused
    cases same

/-- A change that is built never fails to bind its parameters if its statement does not. -/
theorem change {statement : Statement} (binding : fault.IsBinding) (binds : Binds statement fault) :
    NeverFails (Call.change statement) fault := by
  intro session f after yields same
  subst same
  rw [outcome_change] at yields
  cases ran : (changeOn session.store statement).1 with
  | ok n =>
    rw [ran] at yields
    cases (Prod.mk.inj yields).1
  | error other =>
    rw [ran] at yields
    obtain rfl := Failure.storage.inj (Except.error.inj (Prod.mk.inj yields).1)
    obtain ⟨begun, failed⟩ := ready_of_changeOn binding ran
    exact binds begun failed

/-- A change never fails to bind the parameters of its statement. -/
theorem update {table : String} {values : Entries Value} {condition : Condition}
    (binding : fault.IsBinding)
    (binds : ∀ statement, updateStatement table values condition = .ok statement →
      Binds statement fault) : NeverFails (Call.update table values condition) fault := by
  intro session f after yields same
  subst same
  rw [outcome_update] at yields
  split at yields
  · next statement built => exact change binding (binds statement built) session _ after yields rfl
  · next refused =>
    obtain rfl := Except.error.inj (Prod.mk.inj yields).1
    obtain ⟨rejection, same⟩ := Rejects.updateStatement table values condition _ refused
    cases same

/-- A removal never fails to bind the parameters of its statement. -/
theorem delete {table : String} {condition : Option Condition} (binding : fault.IsBinding)
    (binds : ∀ statement, deleteStatement table condition = .ok statement →
      Binds statement fault) : NeverFails (Call.delete table condition) fault := by
  intro session f after yields same
  subst same
  rw [outcome_delete] at yields
  split at yields
  · next statement built => exact change binding (binds statement built) session _ after yields rfl
  · next refused =>
    obtain rfl := Except.error.inj (Prod.mk.inj yields).1
    obtain ⟨rejection, same⟩ := Rejects.deleteStatement table condition _ refused
    cases same

end NeverFails

end Call

end Registrar
