import Registrar.Proofs.Mutation
import Registrar.Proofs.Reach
import Registrar.Proofs.Sql.QuietChanges

/-!
# Quiet statements

A statement is quiet if its expressions are and it changes no setting.  On stores whose tables are quiet
it does the same whatever the connection remembers: two stores that have the same tables, the same
transaction and the same settings answer it alike and are left alike.
-/

namespace Registrar

open Registrar.Text
open Registrar.Sql (Store Action Answer Cell Database)
open Registrar.Call (Unchanged)

namespace Sql

/-- Whether new rows are quiet. -/
def NewRows.quiet : NewRows → Bool
  | .defaults => true
  | .values rows => rows.all Expr.allQuiet

/-- Whether the expressions of a statement are quiet and it changes no setting. -/
def Statement.quiet : Statement → Bool
  | .select query => query.quiet
  | .insert _ _ rows returning => rows.quiet && returning.all Output.quiet
  | .update _ assignments condition returning =>
    assignments.all (fun assignment => assignment.2.quiet) && Expr.quietOr condition &&
      returning.all Output.quiet
  | .delete _ condition returning => Expr.quietOr condition && returning.all Output.quiet
  | .createTable _ _ columns rules =>
    columns.all (fun decl => decl.rules.all ColumnRule.quiet) && rules.all TableRule.quiet
  | .createView _ _ _ query => query.quiet
  | .pragma _ value => value.isNone
  | .drop _ _ _ | .begin | .commit | .rollback => true

/-- What a quiet statement means: its expressions are quiet, and settings stay. -/
def Action.Quiet : Action → Prop
  | .select plan => plan.Quiet
  | .insert insertion => insertion.Quiet
  | .update revision => revision.Quiet
  | .delete removal => removal.Quiet
  | .become database => database.Quiet
  | .setEnforcing _ => False
  | .drop _ | .begin | .commit | .rollback | .showEnforcing | .nothing => True

/-- A store whose tables are quiet, now and where its transaction began, and that keeps references. -/
structure Store.Quiet (s : Store) : Prop where
  database : s.database.Quiet
  saved : ∀ db, s.saved = some db → db.Quiet
  enforcing : s.enforcing = true

section Meaning

variable {db : Database} {enforcing : Bool} {t : Table}

/-- New rows that are quiet are resolved to quiet ones. -/
theorem quiet_of_resolveRows {names : Names} (outputs : names.Quiet) {rows resolved : List (List Expr)}
    (quiet : ∀ row ∈ rows, Expr.allQuiet row = true) (means : Database.resolveRows names rows = .ok resolved) :
    ∀ row ∈ resolved, Expr.allQuiet row = true := by
  induction rows generalizing resolved with
  | nil =>
    rw [← Except.ok.inj means]
    exact nofun
  | cons row rows ih =>
    obtain ⟨first, others⟩ := List.forall_mem_cons.1 quiet
    obtain ⟨row', one, means⟩ := bind_eq_ok means
    obtain ⟨rows', more, means⟩ := bind_eq_ok means
    rw [← Except.ok.inj means]
    exact List.forall_mem_cons.2
      ⟨Names.quiet_of_resolveAll outputs row row' first one, ih others more⟩

/-- The columns that quiet outputs stand for are quiet. -/
theorem Table.quiet_returning {asked : List Output} {shown : List Shown}
    (quiet : asked.all Output.quiet = true) (means : t.names.allShown asked = .ok shown) :
    Expr.allQuiet (shown.map Shown.e) = true := by
  have each := t.names.quiet_of_allShown (by exact nofun) quiet means
  exact Expr.allQuiet_iff.2 (by simpa using each)

/-- The rows of an insertion are those that are written, their names resolved. -/
def Insertion.Gives (insertion : Insertion) : NewRows → Prop
  | .defaults => insertion.rows = [[]]
  | .values rows => Database.resolveRows ⟨[], [], false, true⟩ rows = .ok insertion.rows

/-- The rows of an insertion that is planned are resolved, and so is what it returns; they go to the table
that the insertion names. -/
theorem resolved_of_planInsert {written : String} {columns : Option (List String)} {rows : NewRows}
    {returning : List Output} {insertion : Insertion}
    (means : db.planInsert enforcing written columns rows returning = .ok insertion) :
    ∃ t, db.changeable written = .ok t ∧ insertion.table = t.name ∧
      t.names.allShown returning = .ok insertion.returning ∧ insertion.Gives rows := by
  obtain ⟨t, found, means⟩ := bind_eq_ok means
  have ends {targets : List (Option Nat)} {resolved : List (List Expr)}
      (means : (t.names.allShown returning >>= fun shown =>
        if enforcing = true then db.checkOutgoing t t.foreignKeys >>= fun _ =>
          .ok ⟨t.name, targets, resolved, shown⟩
        else .ok ⟨t.name, targets, resolved, shown⟩) = Except.ok insertion) :
      insertion.table = t.name ∧ t.names.allShown returning = .ok insertion.returning ∧
        insertion.rows = resolved := by
    obtain ⟨shown, returns, means⟩ := bind_eq_ok means
    split at means
    · obtain ⟨_, -, means⟩ := bind_eq_ok means
      rw [← Except.ok.inj means]
      exact ⟨rfl, returns, rfl⟩
    · rw [← Except.ok.inj means]
      exact ⟨rfl, returns, rfl⟩
  have given {targets : List (Option Nat)}
      (means : (match rows with
        | .defaults => t.names.allShown returning >>= fun shown =>
          if enforcing = true then db.checkOutgoing t t.foreignKeys >>= fun _ =>
            .ok ⟨t.name, [], [[]], shown⟩
          else .ok ⟨t.name, [], [[]], shown⟩
        | .values rows => Database.resolveRows ⟨[], [], false, true⟩ rows >>= fun resolved =>
          Database.checkWidth written (columns.map List.length) t.columns.length resolved >>= fun _ =>
            t.names.allShown returning >>= fun shown =>
              if enforcing = true then db.checkOutgoing t t.foreignKeys >>= fun _ =>
                .ok ⟨t.name, targets, resolved, shown⟩
              else .ok ⟨t.name, targets, resolved, shown⟩) = Except.ok insertion) :
      insertion.table = t.name ∧ t.names.allShown returning = .ok insertion.returning ∧
        insertion.Gives rows := by
    cases rows with
    | defaults => exact ends means
    | values rows =>
      obtain ⟨resolved, read, means⟩ := bind_eq_ok means
      obtain ⟨_, -, means⟩ := bind_eq_ok means
      obtain ⟨own, returns, same⟩ := ends means
      exact ⟨own, returns, by rw [Insertion.Gives, same, read]⟩
  refine ⟨t, found, ?_⟩
  -- columns are named or they are not; the rows are resolved in either case
  dsimp only at means
  split at means
  · obtain ⟨targets, -, means⟩ := bind_eq_ok means
    exact given means
  · exact given means

/-- A quiet insertion is planned as one. -/
theorem quiet_of_planInsert {written : String} {columns : Option (List String)} {rows : NewRows}
    {returning : List Output} {insertion : Insertion} (quiet : rows.quiet = true)
    (answers : returning.all Output.quiet = true)
    (means : db.planInsert enforcing written columns rows returning = .ok insertion) :
    insertion.Quiet := by
  obtain ⟨t, -, -, returns, given⟩ := resolved_of_planInsert means
  refine ⟨?_, Table.quiet_returning answers returns⟩
  cases rows with
  | defaults =>
    have given : insertion.rows = [[]] := given
    intro row mem
    rw [given] at mem
    rw [List.mem_singleton.1 mem]
    rfl
  | values rows => exact quiet_of_resolveRows (by exact nofun) (List.all_eq_true.1 quiet) given

/-- Assignments that are quiet are resolved to quiet ones. -/
theorem quiet_of_resolveAssignments {given : List (String × Expr)}
    {assignments : List (Option Nat × Expr)} (quiet : ∀ assignment ∈ given, assignment.2.quiet = true)
    (means : Database.resolveAssignments t given = .ok assignments) :
    ∀ assignment ∈ assignments, assignment.2.quiet = true := by
  induction given generalizing assignments with
  | nil =>
    rw [← Except.ok.inj means]
    exact nofun
  | cons assignment given ih =>
    obtain ⟨first, others⟩ := List.forall_mem_cons.1 quiet
    obtain ⟨e, one, means⟩ := bind_eq_ok means
    split at means
    · cases means
    · obtain ⟨rest, more, means⟩ := bind_eq_ok means
      rw [← Except.ok.inj means]
      exact List.forall_mem_cons.2
        ⟨Names.quiet_of_resolve (by exact nofun) _ e first one, ih others more⟩

/-- A quiet change of rows is planned as one. -/
theorem quiet_of_planUpdate {written : String} {given : List (String × Expr)} {condition : Option Expr}
    {returning : List Output} {revision : Revision}
    (quiet : given.all (fun assignment => assignment.2.quiet) = true)
    (chooses : Expr.quietOr condition = true) (answers : returning.all Output.quiet = true)
    (means : db.planUpdate enforcing written given condition returning = .ok revision) :
    revision.Quiet := by
  obtain ⟨t, -, means⟩ := bind_eq_ok means
  obtain ⟨assignments, assigned, means⟩ := bind_eq_ok means
  obtain ⟨test, resolved, means⟩ := bind_eq_ok means
  obtain ⟨shown, returns, means⟩ := bind_eq_ok means
  have whole : Revision.Quiet ⟨t.name, assignments, test, shown⟩ :=
    ⟨quiet_of_resolveAssignments (List.all_eq_true.1 quiet) assigned,
      Names.quiet_of_resolveOption (by exact nofun) _ _ chooses resolved,
      Table.quiet_returning answers returns⟩
  dsimp only at means
  split at means
  · obtain ⟨_, -, means⟩ := bind_eq_ok means
    obtain ⟨_, -, means⟩ := bind_eq_ok means
    rwa [← Except.ok.inj means]
  · rwa [← Except.ok.inj means]

/-- A quiet removal of rows is planned as one. -/
theorem quiet_of_planDelete {written : String} {condition : Option Expr} {returning : List Output}
    {removal : Removal} (chooses : Expr.quietOr condition = true)
    (answers : returning.all Output.quiet = true)
    (means : db.planDelete enforcing written condition returning = .ok removal) : removal.Quiet := by
  obtain ⟨t, -, means⟩ := bind_eq_ok means
  obtain ⟨test, resolved, means⟩ := bind_eq_ok means
  obtain ⟨shown, returns, means⟩ := bind_eq_ok means
  have whole : Removal.Quiet ⟨t.name, test, shown⟩ :=
    ⟨Names.quiet_of_resolveOption (by exact nofun) _ _ chooses resolved,
      Table.quiet_returning answers returns⟩
  dsimp only at means
  split at means
  · obtain ⟨_, -, means⟩ := bind_eq_ok means
    obtain ⟨_, -, means⟩ := bind_eq_ok means
    rwa [← Except.ok.inj means]
  · rwa [← Except.ok.inj means]

/-- What a quiet statement means to quiet tables is quiet. -/
theorem Store.Quiet.quiet_of_prepare {s : Store} (quiet : s.Quiet) {source : String}
    {statement : Statement} (own : statement.quiet = true) {action : Action}
    (means : s.prepare source statement = .ok action) : action.Quiet := by
  cases statement with
  | select query =>
    obtain ⟨plan, planned, means⟩ := bind_eq_ok means
    rw [← Except.ok.inj means]
    exact Database.quiet_of_plan own planned
  | insert table columns rows returning =>
    obtain ⟨insertion, planned, means⟩ := bind_eq_ok means
    rw [Statement.quiet, Bool.and_eq_true] at own
    rw [← Except.ok.inj means]
    exact quiet_of_planInsert own.1 own.2 planned
  | update table assignments condition returning =>
    obtain ⟨revision, planned, means⟩ := bind_eq_ok means
    rw [Statement.quiet, Bool.and_eq_true, Bool.and_eq_true] at own
    rw [← Except.ok.inj means]
    exact quiet_of_planUpdate own.1.1 own.1.2 own.2 planned
  | delete table condition returning =>
    obtain ⟨removal, planned, means⟩ := bind_eq_ok means
    rw [Statement.quiet, Bool.and_eq_true] at own
    rw [← Except.ok.inj means]
    exact quiet_of_planDelete own.1 own.2 planned
  | createTable name ifMissing columns rules =>
    obtain ⟨database, creates, means⟩ := bind_eq_ok means
    rw [Statement.quiet, Bool.and_eq_true, List.all_eq_true] at own
    rw [← Except.ok.inj means]
    exact all_of_createTable quiet.database rfl
      (fun t declares => quiet_of_declareTable own.1 own.2 declares) creates
  | createView name ifMissing columns query =>
    obtain ⟨database, creates, means⟩ := bind_eq_ok means
    rw [← Except.ok.inj means]
    exact all_of_createView quiet.database own creates
  | drop isView ifPresent name =>
    simp only [Store.prepare, Store.prepareDrop] at means
    split at means
    · split at means
      · rw [← Except.ok.inj means]
        trivial
      · split at means <;> cases means
    · split at means
      · cases means
      · split at means
        · rw [← Except.ok.inj means]
          trivial
        · rw [← Except.ok.inj means]
          exact quiet.database.remove name
        · cases means
        · cases means
  | pragma name value =>
    cases value with
    | some value => cases own
    | none =>
      simp only [Store.prepare] at means
      split at means
      · rw [← Except.ok.inj means]
        trivial
      · rw [← Except.ok.inj means]
        trivial
  | _ =>
    rw [← Except.ok.inj means]
    trivial

end Meaning

/-! ### Running -/

/-- Whether the first statement of a text is quiet, if there is one. -/
def quietText (sql : String) : Bool :=
  match parse sql with
  | .error _ => true
  | .ok parsed => (parsed.statement.map Statement.quiet).getD true

/-- Whether the statements of a text are quiet, up to the first that cannot be read. -/
def quietTexts : Nat → String → Bool
  | 0, _ => true
  | fuel + 1, sql =>
    quietText sql &&
      match parse sql with
      | .error _ => true
      | .ok parsed => parsed.rest.isEmpty || quietTexts fuel (String.ofList parsed.rest)

/-- Whether all statements of a text are quiet. -/
def quietScript (sql : String) : Bool :=
  quietTexts (sql.length + 1) sql

/-- A text is quiet if its first statement is and so are those behind it. -/
theorem quietTexts_of_parse {sql source : String} {statement : Statement} {n : Nat} {rest : List Char}
    (read : parse sql = .ok ⟨some statement, n, source, rest⟩) (own : statement.quiet = true)
    (behind : ∀ fuel, quietTexts fuel (String.ofList rest) = true) (fuel : Nat) :
    quietTexts fuel sql = true := by
  cases fuel with
  | zero => rfl
  | succ fuel => simp [quietTexts, quietText, read, own, behind]

/-- Two attempts on stores fail alike, or they yield the same and leave stores that are alike. -/
inductive Store.Alike {ε α : Type} : Except ε (α × Store) → Except ε (α × Store) → Prop
  | failed (e : ε) : Alike (.error e) (.error e)
  | done (a : α) {s t : Store} (alike : Unchanged s t) : Alike (.ok (a, s)) (.ok (a, t))

namespace Store

variable {a b : Store}

/-- What a statement means is the same to stores that are alike. -/
theorem prepare_of_unchanged (alike : Unchanged a b) (source : String) (statement : Statement) :
    b.prepare source statement = a.prepare source statement := by
  cases statement <;> simp only [prepare, prepareDrop, alike.database, alike.enforcing]

/-- What the first statement of a text means is the same to stores that are alike. -/
theorem ready_of_unchanged (alike : Unchanged a b) (sql : String) : b.ready sql = a.ready sql := by
  simp only [ready, prepare_of_unchanged alike]

/-- The first statement of a quiet text means something quiet. -/
theorem Quiet.quiet_of_ready (quiet : a.Quiet) {sql : String} (own : quietText sql = true)
    {ready : Ready} {action : Action} (means : a.ready sql = .ok ready)
    (acts : ready.action = some action) : action.Quiet := by
  obtain ⟨parsed, statement, read, here, prepared⟩ := of_ready means acts
  rw [quietText, read] at own
  simp only [here, Option.map_some, Option.getD_some] at own
  exact quiet.quiet_of_prepare own prepared

/-- What a quiet statement makes of a quiet store is quiet. -/
theorem Quiet.run (quiet : a.Quiet) {parameters : List Cell} {action : Action} (own : action.Quiet)
    {answer : Answer} {after : Store} (done : a.run parameters action = .ok (answer, after)) :
    after.Quiet := by
  have ran := ran_of_run done
  obtain ⟨database, saved⟩ := lasting_quiet.persists.run quiet.database quiet.saved
    (fun db becomes => by subst becomes; exact own) ran
  refine ⟨database, saved, ?_⟩
  cases ran with
  | set on => cases own
  | _ => exact quiet.enforcing

/-- A quiet change of rows comes to the same on stores that are alike. -/
theorem outcome_of_quiet {action : Action} (changes : action.ChangesRows) (own : action.Quiet)
    (quiet : a.Quiet) (alike : Unchanged a b) (parameters : List Cell) :
    ∃ result : Except Problem Outcome,
      a.run parameters action = result.map (fun outcome => (outcome.answer, a.afterChange outcome)) ∧
      b.run parameters action = result.map (fun outcome => (outcome.answer, b.afterChange outcome)) ∧
      ∀ insertion, action = .insert insertion →
        result = insertion.run a.database a.enforcing (a.env parameters) := by
  have sees : b.env parameters = (a.env parameters).recalling b.lastId b.changes := rfl
  cases action with
  | insert insertion =>
    have same := Insertion.Quiet.run_recalling (a.env parameters) b.lastId b.changes own
      quiet.database a.enforcing
    refine ⟨insertion.run a.database a.enforcing (a.env parameters), ?_, ?_, ?_⟩
    · simp only [Store.run]
      cases insertion.run a.database a.enforcing (a.env parameters) <;> rfl
    · simp only [Store.run, sees, alike.database, alike.enforcing, same]
      cases insertion.run a.database a.enforcing (a.env parameters) <;> rfl
    · rintro _ ⟨⟩
      rfl
  | update revision =>
    have same := Revision.Quiet.run_recalling (a.env parameters) b.lastId b.changes own
      quiet.database a.enforcing
    refine ⟨revision.run a.database a.enforcing (a.env parameters), ?_, ?_, ?_⟩
    · simp only [Store.run]
      cases revision.run a.database a.enforcing (a.env parameters) <;> rfl
    · simp only [Store.run, sees, alike.database, alike.enforcing, same]
      cases revision.run a.database a.enforcing (a.env parameters) <;> rfl
    · intro _ same
      cases same
  | delete removal =>
    have same := Removal.Quiet.run_recalling (a.env parameters) b.lastId b.changes own
      quiet.database a.enforcing
    refine ⟨removal.run a.database a.enforcing (a.env parameters), ?_, ?_, ?_⟩
    · simp only [Store.run]
      cases removal.run a.database a.enforcing (a.env parameters) <;> rfl
    · simp only [Store.run, sees, alike.database, alike.enforcing, same]
      cases removal.run a.database a.enforcing (a.env parameters) <;> rfl
    · intro _ same
      cases same
  | _ => cases changes

/-- A quiet statement comes to the same on stores that are alike. -/
theorem alike_run {action : Action} (own : action.Quiet) (quiet : a.Quiet) (alike : Unchanged a b)
    (parameters : List Cell) : Alike (a.run parameters action) (b.run parameters action) := by
  have sees : b.env parameters = (a.env parameters).recalling b.lastId b.changes := rfl
  have changed (changes : action.ChangesRows) :
      Alike (a.run parameters action) (b.run parameters action) := by
    obtain ⟨result, first, second, -⟩ := outcome_of_quiet changes own quiet alike parameters
    rw [first, second]
    cases result with
    | error problem => exact .failed problem
    | ok outcome => exact .done outcome.answer ⟨rfl, alike.saved, alike.enforcing⟩
  have transaction : b.inTransaction = a.inTransaction := by
    rw [inTransaction, inTransaction, alike.saved]
  have left {t : Store} (s : Store) (alike : Unchanged s t) :
      Alike (.ok (Answer.none, s) : Except Problem (Answer × Store)) (.ok (Answer.none, t)) :=
    .done Answer.none alike
  cases action with
  | insert insertion => exact changed trivial
  | update revision => exact changed trivial
  | delete removal => exact changed trivial
  | select plan =>
    have same := Plan.Quiet.run_recalling (a.env parameters) b.lastId b.changes own
    simp only [Store.run, sees, same]
    cases plan.run (a.env parameters) with
    | error problem => exact .failed problem
    | ok answer => exact .done answer alike
  | become database => exact left { a with database } ⟨rfl, alike.saved, alike.enforcing⟩
  | drop t =>
    have same := dropTable_recalling (a.env parameters) b.lastId b.changes quiet.database
      a.enforcing t
    simp only [Store.run, sees, alike.database, alike.enforcing, same]
    cases a.database.dropTable a.enforcing (a.env parameters) t with
    | error problem => exact .failed problem
    | ok database => exact left { a with database } ⟨rfl, alike.saved, rfl⟩
  | begin =>
    simp only [Store.run, transaction]
    split
    · exact .failed _
    · exact left { a with saved := some a.database }
        ⟨alike.database, congrArg some alike.database, alike.enforcing⟩
  | commit =>
    simp only [Store.run, transaction]
    split
    · exact left { a with saved := none } ⟨alike.database, rfl, alike.enforcing⟩
    · exact .failed _
  | rollback =>
    simp only [Store.run, alike.saved]
    split
    · next database saved => exact left { a with database, saved := none } ⟨rfl, rfl, alike.enforcing⟩
    · exact .failed _
  | setEnforcing on => cases own
  | showEnforcing =>
    simp only [Store.run, alike.enforcing]
    exact .done _ alike
  | nothing => exact left a alike

/-- The problem of a statement names its text on either store. -/
theorem alike_runReady {action : Action} (own : action.Quiet) (quiet : a.Quiet)
    (alike : Unchanged a b) (sql : String) (parameters : List Cell) :
    Alike (a.runReady sql parameters action) (b.runReady sql parameters action) := by
  have ran := alike_run own quiet alike parameters
  unfold runReady
  generalize a.run parameters action = x at ran ⊢
  generalize b.run parameters action = y at ran ⊢
  cases ran with
  | failed problem => exact .failed _
  | done answer left => exact .done answer left

/-- Behind the first statement of a quiet text there are quiet ones. -/
theorem quietTexts_rest {s : Store} {fuel : Nat} {sql : String} (own : quietTexts (fuel + 1) sql = true)
    {ready : Ready} (means : s.ready sql = .ok ready) (more : ¬ ready.rest.isEmpty = true) :
    quietTexts fuel ready.rest = true := by
  rw [quietTexts, Bool.and_eq_true] at own
  unfold Store.ready at means
  split at means
  · cases means
  · next parsed read =>
    have rest := own.2
    rw [read] at rest
    split at means
    · rw [← Except.ok.inj means] at more
      exact absurd rfl more
    · split at means
      · cases means
      · rw [← Except.ok.inj means] at more ⊢
        rcases Bool.or_eq_true_iff.1 rest with none | rest
        · exact absurd (by rw [List.isEmpty_iff.1 none]; rfl) more
        · exact rest

/-- The statements of a quiet text come to the same on stores that are alike, and leave a quiet store
quiet. -/
theorem alike_runScript (fuel : Nat) {sql : String} (own : quietTexts fuel sql = true)
    (quiet : a.Quiet) (alike : Unchanged a b) :
    (runScript fuel b sql).2 = (runScript fuel a sql).2 ∧
      Unchanged (runScript fuel a sql).1 (runScript fuel b sql).1 ∧ (runScript fuel a sql).1.Quiet := by
  induction fuel generalizing a b sql with
  | zero => exact ⟨rfl, alike, quiet⟩
  | succ fuel ih =>
    rw [quietTexts, Bool.and_eq_true] at own
    rw [runScript, runScript, ready_of_unchanged alike]
    cases means : a.ready sql with
    | error e => exact ⟨rfl, alike, quiet⟩
    | ok ready =>
      cases acts : ready.action with
      | none =>
        simp only [acts]
        exact ⟨trivial, alike, quiet⟩
      | some action =>
        have actsQuietly := quiet.quiet_of_ready own.1 means acts
        have ran := alike_runReady actsQuietly quiet alike sql []
        simp only [acts]
        cases left : a.runReady sql [] action with
        | error e =>
          rw [left] at ran
          generalize b.runReady sql [] action = y at ran ⊢
          cases ran with
          | failed => exact ⟨rfl, alike, quiet⟩
        | ok result =>
          obtain ⟨answer, after⟩ := result
          rw [left] at ran
          generalize b.runReady sql [] action = y at ran ⊢
          cases ran with
          | done _ alike' =>
            have quiet' := quiet.run actsQuietly (run_of_runReady left)
            dsimp only
            split
            · exact ⟨rfl, alike', quiet'⟩
            · next more =>
              have all : quietTexts (fuel + 1) sql = true := by
                rw [quietTexts, Bool.and_eq_true]
                exact own
              exact ih (quietTexts_rest all means more) quiet' alike'

end Store

end Sql

end Registrar
