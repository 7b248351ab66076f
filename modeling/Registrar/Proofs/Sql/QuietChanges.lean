import Registrar.Proofs.Sql.Recalling
import Registrar.Proofs.Sql.Shapes

/-!
# Quiet changes

A table is quiet if its defaults and the rules for its rows are.  Quiet declarations make quiet tables,
and changes of rows leave them so.  What a quiet change does to quiet tables does not depend on what
the connection remembers, and neither do the changes that references make follow it.
-/

namespace Registrar.Sql

/-! ### Quiet tables -/

/-- Whether the defaults of a table and the rules for its rows are quiet. -/
def Table.quiet (t : Table) : Bool :=
  t.columns.all (fun c => Expr.quietOr (c.default.map Prod.snd)) &&
    t.checks.all fun check => check.2.quiet

/-- Whether a table or a view is quiet. -/
def Item.quiet : Item → Bool
  | .table t => t.quiet
  | .view v => v.query.quiet

/-- All tables and views are quiet. -/
abbrev Database.Quiet (db : Database) : Prop :=
  db.All fun item => item.quiet = true

/-- Whether a table is quiet does not depend on its rows. -/
theorem lasting_quiet : Lasting fun item => item.quiet = true := by
  intro t u same quiet
  have shapes : u.shape.quiet = t.shape.quiet := by rw [same]
  exact shapes.trans quiet

/-- Quiet tables withstand changes of single rows. -/
theorem withstands_quiet : Withstands (fun _ => True) (fun _ _ => True) Database.Quiet :=
  lasting_quiet.persists.withstands

/-- Whether a rule of a column is quiet. -/
def ColumnRule.quiet : ColumnRule → Bool
  | .check _ e | .default _ e => e.quiet
  | _ => true

/-- Whether a rule of a table is quiet. -/
def TableRule.quiet : TableRule → Bool
  | .check _ e => e.quiet
  | _ => true

section Declarations

variable {t u : Table}

/-- A column of quiet rules has a quiet default. -/
theorem quiet_of_ruled {decl : ColumnDecl} {rules : List ColumnRule} {bare column : Column}
    (known : Expr.quietOr (bare.default.map Prod.snd) = true)
    (quiet : rules.all ColumnRule.quiet = true) (done : decl.column rules bare = .ok column) :
    Expr.quietOr (column.default.map Prod.snd) = true := by
  induction rules generalizing bare with
  | nil =>
    rw [← Except.ok.inj done]
    exact known
  | cons rule rules ih =>
    rw [List.all_cons, Bool.and_eq_true] at quiet
    cases rule with
    | default source e =>
      rw [ColumnDecl.column] at done
      split at done
      · next f constant =>
        have isQuiet : f.quiet = true := by
          unfold Expr.constant? at constant
          split at constant
          · next g resolved =>
            rw [← Option.some.inj constant]
            exact Names.quiet_of_resolve (by exact List.forall_mem_nil _) e g quiet.1 resolved
          · cases constant
        exact @ih { bare with default := some (source, f) } isQuiet quiet.2 done
      · cases done
    | collate collation =>
      rw [ColumnDecl.column] at done
      split at done
      · exact @ih { bare with collation := .binary } known quiet.2 done
      · exact @ih { bare with collation := .nocase } known quiet.2 done
      · exact @ih { bare with collation := .rtrim } known quiet.2 done
      · cases done
    | notNull =>
      rw [ColumnDecl.column] at done
      exact @ih { bare with notNull := true } known quiet.2 done
    | _ => exact ih known quiet.2 done

/-- Columns of quiet rules have quiet defaults. -/
theorem quiet_of_declareColumns {decls : List ColumnDecl} {known columns : List Column}
    (before : ∀ c ∈ known, Expr.quietOr (c.default.map Prod.snd) = true)
    (quiet : ∀ decl ∈ decls, decl.rules.all ColumnRule.quiet = true)
    (done : declareColumns known decls = .ok columns) :
    ∀ c ∈ columns, Expr.quietOr (c.default.map Prod.snd) = true := by
  induction decls generalizing known with
  | nil =>
    rw [← Except.ok.inj done]
    exact before
  | cons decl decls ih =>
    obtain ⟨first, others⟩ := List.forall_mem_cons.1 quiet
    rw [declareColumns] at done
    split at done
    · cases done
    · obtain ⟨column, ruled, done⟩ := bind_eq_ok done
      refine ih ?_ others done
      intro c mem
      rcases List.mem_append.1 mem with mem | mem
      · exact before c mem
      · rw [List.mem_singleton.1 mem]
        exact quiet_of_ruled rfl first ruled

/-- The rules for rows are quiet where their names are resolved. -/
theorem quiet_of_resolveChecks {checks resolved : List (String × Expr)}
    (quiet : ∀ check ∈ checks, check.2.quiet = true)
    (done : t.resolveChecks checks = .ok resolved) : ∀ check ∈ resolved, check.2.quiet = true := by
  induction checks generalizing resolved with
  | nil =>
    rw [← Except.ok.inj done]
    exact nofun
  | cons check checks ih =>
    obtain ⟨first, others⟩ := List.forall_mem_cons.1 quiet
    obtain ⟨e, one, done⟩ := bind_eq_ok done
    obtain ⟨rest, more, done⟩ := bind_eq_ok done
    rw [← Except.ok.inj done]
    exact List.forall_mem_cons.2
      ⟨Names.quiet_of_resolve (by exact nofun) _ e first one, ih others more⟩

/-- A primary key leaves a quiet table quiet. -/
theorem Table.quiet_addPrimaryKey {columns : List Nat} {showsId counting : Bool}
    (quiet : t.quiet = true) (done : t.addPrimaryKey columns showsId counting = .ok u) :
    u.quiet = true := by
  have placed : (t.withKeyPlaces columns).quiet = true := by
    rw [Table.quiet, Bool.and_eq_true, List.all_eq_true] at quiet ⊢
    refine ⟨fun c mem => ?_, quiet.2⟩
    obtain ⟨i, here⟩ := List.mem_iff_getElem?.1 mem
    obtain ⟨d, _, there, rfl⟩ := of_withKeyPlaces here
    exact quiet.1 d (List.mem_of_getElem? there)
  have keyed : ((t.withKeyPlaces columns).addKey columns true).quiet = true := by
    unfold Table.addKey
    split <;> exact placed
  unfold Table.addPrimaryKey at done
  split at done
  · cases done
  · dsimp only at done
    split at done
    · split at done
      · rw [← Except.ok.inj done]
        exact placed
      · split at done
        · cases done
        · rw [← Except.ok.inj done]
          exact keyed
    · split at done
      · cases done
      · rw [← Except.ok.inj done]
        exact keyed

/-- Quiet declarations make quiet tables. -/
theorem quiet_of_declareTable {name declaration : String} {decls : List ColumnDecl}
    {rules : List TableRule} (ofColumns : ∀ decl ∈ decls, decl.rules.all ColumnRule.quiet = true)
    (ofTable : rules.all TableRule.quiet = true)
    (done : declareTable name declaration decls rules = .ok t) : t.quiet = true := by
  have declaring : Declaring (fun e => e.quiet = true) (fun t => t.quiet = true) := {
    of_same := fun quiet _ _ columns _ checks _ => by
      rwa [Table.quiet, columns, checks]
    addPrimaryKey := Table.quiet_addPrimaryKey
    addCheck := fun {t rule e} quiet own => by
      rw [Table.quiet, Bool.and_eq_true] at quiet ⊢
      refine ⟨quiet.1, ?_⟩
      rw [List.all_append, quiet.2, List.all_cons, own]
      rfl
    resolveChecks := fun quiet resolved => by
      rw [Table.quiet, Bool.and_eq_true, List.all_eq_true] at quiet ⊢
      rw [List.all_eq_true] at quiet ⊢
      exact ⟨quiet.1, quiet_of_resolveChecks quiet.2 resolved⟩ }
  refine declaring.of_declareTable (fun columns listed => ?_) (fun decl mem rule own => ?_)
    (fun rule own => ?_) done
  · rw [Table.quiet, Bool.and_eq_true, List.all_eq_true]
    exact ⟨quiet_of_declareColumns (by exact nofun) ofColumns listed, rfl⟩
  · have isQuiet := List.all_eq_true.1 (ofColumns decl mem) rule own
    cases rule with
    | check rule e => exact isQuiet
    | _ => trivial
  · have isQuiet := List.all_eq_true.1 ofTable rule own
    cases rule with
    | check rule e => exact isQuiet
    | _ => trivial

end Declarations

/-! ### Changes -/

section Changes

variable (env : Env) (lastId changes : Int64) {t : Table} {db : Database}

/-- The defaults of a quiet table are quiet. -/
theorem Table.quiet_default (quiet : t.quiet = true) {c : Column} (mem : c ∈ t.columns)
    {source : String} {e : Expr} (given : c.default = some (source, e)) : e.quiet = true := by
  rw [Table.quiet, Bool.and_eq_true, List.all_eq_true] at quiet
  have isQuiet := quiet.1 c mem
  rw [given] at isQuiet
  exact isQuiet

/-- The cells of a new row do not depend on what the connection remembers. -/
theorem newCells_recalling (quiet : t.quiet = true) (targets : List (Option Nat))
    (values : List Cell) :
    newCells t (env.recalling lastId changes) targets values = newCells t env targets values := by
  refine mapM_congr_of_mem fun entry mem => ?_
  have own : entry.1 ∈ t.columns := List.fst_mem_of_mem_zipIdx mem
  split
  · rfl
  · cases given : entry.1.default with
    | none => rfl
    | some default =>
      exact Expr.eval_recalling (env.ofRow []) lastId changes _ (Table.quiet_default quiet own given)

/-- Whether a row breaks a rule does not depend on what the connection remembers. -/
theorem Table.checkRules_recalling (row : Row) {checks : List (String × Expr)}
    (quiet : ∀ check ∈ checks, check.2.quiet = true) :
    t.checkRules (env.recalling lastId changes) row checks = t.checkRules env row checks := by
  induction checks with
  | nil => rfl
  | cons check checks ih =>
    obtain ⟨first, others⟩ := List.forall_mem_cons.1 quiet
    have same := Expr.eval_recalling (env.ofRow row.slots) lastId changes _ first
    refine bind_congr_of_ok same fun cell _ => ?_
    rw [ih others]

/-- Whether a row is refused does not depend on what the connection remembers. -/
theorem Table.check_recalling (quiet : t.quiet = true) (others : List Row) (row : Row) :
    t.check (env.recalling lastId changes) others row = t.check env others row := by
  rw [Table.quiet, Bool.and_eq_true, List.all_eq_true (l := t.checks)] at quiet
  rw [Table.check, Table.check, t.checkRules_recalling env lastId changes row quiet.2]

/-- What is returned for rows does not depend on what the connection remembers. -/
theorem returned_recalling {returning : List Shown}
    (quiet : Expr.allQuiet (returning.map Shown.e) = true) :
    returned (env.recalling lastId changes) returning = returned env returning :=
  funext fun row => evalAll_ofRow_recalling env lastId changes quiet row.slots

/-- What inserting a row comes to does not depend on what the connection remembers. -/
theorem insertOne_recalling (quiet : t.quiet = true) (counted : Int) (targets : List (Option Nat))
    {values : List Expr} (given : Expr.allQuiet values = true) :
    insertOne t (env.recalling lastId changes) counted targets values =
      insertOne t env counted targets values := by
  have value := evalAll_ofRow_recalling env lastId changes given []
  have cells := newCells_recalling env lastId changes quiet targets
  have keeps := Table.check_recalling env lastId changes quiet
  simp only [insertOne, value, cells, keeps]

/-- What inserting rows comes to does not depend on what the connection remembers. -/
theorem insertAll_recalling (quiet : t.quiet = true) (counted : Int) (targets : List (Option Nat))
    {values : List (List Expr)} (given : ∀ row ∈ values, Expr.allQuiet row = true) :
    insertAll (env.recalling lastId changes) targets t counted values =
      insertAll env targets t counted values := by
  induction values generalizing t counted with
  | nil => rfl
  | cons row values ih =>
    obtain ⟨first, others⟩ := List.forall_mem_cons.1 given
    refine bind_congr_of_ok (insertOne_recalling env lastId changes quiet counted targets first) ?_
    rintro ⟨grown, new⟩ inserted
    obtain ⟨-, -, -, -, -, -, -, grows⟩ := insertOne_cases inserted
    have shape : grown.shape = t.shape := by rw [grows]; rfl
    have rest := ih (lasting_quiet t grown shape quiet) (max counted new.id.toInt) others
    simp only [rest]

/-- All expressions of an insertion are quiet. -/
structure Insertion.Quiet (insertion : Insertion) : Prop where
  rows : ∀ row ∈ insertion.rows, Expr.allQuiet row = true
  returning : Expr.allQuiet (insertion.returning.map Shown.e) = true

/-- All expressions of a change of rows are quiet. -/
structure Revision.Quiet (revision : Revision) : Prop where
  assignments : ∀ assignment ∈ revision.assignments, assignment.2.quiet = true
  condition : Expr.quietOr revision.condition = true
  returning : Expr.allQuiet (revision.returning.map Shown.e) = true

/-- All expressions of a removal of rows are quiet. -/
structure Removal.Quiet (removal : Removal) : Prop where
  condition : Expr.quietOr removal.condition = true
  returning : Expr.allQuiet (removal.returning.map Shown.e) = true

/-- What a quiet insertion does to quiet tables does not depend on what the connection remembers. -/
theorem Insertion.Quiet.run_recalling {insertion : Insertion} (quiet : insertion.Quiet)
    (tables : db.Quiet) (enforcing : Bool) :
    insertion.run db enforcing (env.recalling lastId changes) = insertion.run db enforcing env := by
  unfold Insertion.run
  split
  · rfl
  · next t found =>
    have rows := insertAll_recalling env lastId changes (tables.of_table? found) (db.counted t)
      insertion.targets quiet.rows
    have answers := returned_recalling env lastId changes quiet.returning
    simp only [rows, answers]

/-- The cells of a row that follows another do not depend on what the connection remembers. -/
theorem followingCells_recalling (quiet : t.quiet = true) (action : ReferenceAction)
    (fk : ForeignKey) (new cells : List Cell) :
    followingCells (env.recalling lastId changes) t action fk new cells =
      followingCells env t action fk new cells := by
  have each (i : Nat) (cell : Cell) : followingCell (env.recalling lastId changes) t action i cell =
      followingCell env t action i cell := by
    cases action with
    | setDefault =>
      unfold followingCell
      dsimp only
      split
      · next source e here =>
        obtain ⟨c, own, given⟩ := Option.bind_eq_some_iff.1 here
        exact Expr.eval_recalling (env.ofRow []) lastId changes e
          (Table.quiet_default quiet (List.mem_of_getElem? own) given)
      · rfl
    | _ => rfl
  simp only [followingCells, each]

/-- What follows the change of a row, on a number of levels, does not depend on what the connection
remembers. -/
structure FollowsQuietly (env : Env) (lastId changes : Int64) (fuel : Nat) : Prop where
  follow : ∀ {db : Database}, db.Quiet → ∀ parent old new references,
    Database.follow (env.recalling lastId changes) fuel parent old new references db =
      Database.follow env fuel parent old new references db
  removeRows : ∀ {db : Database}, db.Quiet → ∀ name rows,
    db.removeRows (env.recalling lastId changes) fuel name rows = db.removeRows env fuel name rows
  followRows : ∀ {db : Database}, db.Quiet → ∀ name fk action new rows,
    db.followRows (env.recalling lastId changes) fuel name fk action new rows =
      db.followRows env fuel name fk action new rows

namespace FollowsQuietly

variable {env lastId changes} {fuel : Nat}

/-- What follows on one level more is as quiet as what follows on the levels below. -/
theorem follow_succ (below : FollowsQuietly env lastId changes fuel) (tables : db.Quiet)
    (parent : Table) (old : Row) (new : Option Row) (references : List (Table × ForeignKey)) :
    Database.follow (env.recalling lastId changes) (fuel + 1) parent old new references db =
      Database.follow env (fuel + 1) parent old new references db := by
  have safely := withstands_quiet.followsSafely env fuel
  cases references with
  | nil => rw [Database.follow, Database.follow]
  | cons reference references =>
    obtain ⟨child, fk⟩ := reference
    rw [Database.follow, Database.follow]
    split
    · exact below.follow tables parent old new references
    · dsimp only
      generalize (if new.isSome then fk.reference.onUpdate else fk.reference.onDelete) = action
      generalize (action == ReferenceAction.refuse || _) = passedOver
      split
      · exact below.follow tables parent old new references
      · split
        · refine bind_congr_of_ok (below.removeRows tables _ _) fun after done => ?_
          exact below.follow (safely.removeRows tables trivial done) parent old none references
        · refine bind_congr_of_ok (below.followRows tables _ _ _ _ _) fun after done => ?_
          exact below.follow (safely.followRows tables trivial (fun _ _ => trivial) done) parent old new
            references

/-- Removing on one level more is as quiet as what follows on the levels below. -/
theorem removeRows_succ (below : FollowsQuietly env lastId changes fuel) (tables : db.Quiet)
    (name : String) (rows : List Row) :
    db.removeRows (env.recalling lastId changes) (fuel + 1) name rows =
      db.removeRows env (fuel + 1) name rows := by
  have safely := withstands_quiet.followsSafely env fuel
  cases rows with
  | nil => rw [Database.removeRows, Database.removeRows]
  | cons row rows =>
    rw [Database.removeRows, Database.removeRows]
    split
    · rfl
    · next t found =>
      have gone : (db.replace (t.drop row.id)).Quiet := tables.replace lasting_quiet found rfl
      refine bind_congr_of_ok (below.follow gone _ _ _ _) fun after done => ?_
      exact below.removeRows (safely.follow gone (fun _ _ _ => trivial) done) name rows

/-- Changing rows on one level more is as quiet as what follows on the levels below. -/
theorem followRows_succ (below : FollowsQuietly env lastId changes fuel) (tables : db.Quiet)
    (name : String) (fk : ForeignKey) (action : ReferenceAction) (new : List Cell)
    (rows : List Row) :
    db.followRows (env.recalling lastId changes) (fuel + 1) name fk action new rows =
      db.followRows env (fuel + 1) name fk action new rows := by
  have safely := withstands_quiet.followsSafely env fuel
  cases rows with
  | nil => rw [Database.followRows, Database.followRows]
  | cons row rows =>
    rw [Database.followRows, Database.followRows]
    split
    · rfl
    · next t found =>
      have own : t.quiet = true := tables.of_table? found
      refine bind_congr_of_ok (followingCells_recalling env lastId changes own _ _ _ _) fun cells _ => ?_
      refine bind_congr_of_ok (Table.check_recalling env lastId changes own _ _) fun _ _ => ?_
      have changed (row' : Row) : (db.replace (t.exchange row.id row')).Quiet :=
        tables.replace lasting_quiet found rfl
      refine bind_congr_of_ok (below.follow (changed _) _ _ _ _) fun after done => ?_
      exact below.followRows (safely.follow (changed _) (fun _ _ _ => trivial) done) name fk action new
        rows

/-- What follows is quiet on every number of levels. -/
theorem of_fuel (fuel : Nat) : FollowsQuietly env lastId changes fuel := by
  induction fuel with
  | zero =>
    refine ⟨fun _ _ _ _ _ => ?_, fun _ _ _ => ?_, fun _ _ _ _ _ _ => ?_⟩
    · rw [Database.follow, Database.follow]
    · rw [Database.removeRows, Database.removeRows]
    · rw [Database.followRows, Database.followRows]
  | succ fuel below =>
    exact ⟨fun tables => below.follow_succ tables, fun tables => below.removeRows_succ tables,
      fun tables => below.followRows_succ tables⟩

end FollowsQuietly

/-- The rows that meet a quiet condition do not depend on what the connection remembers. -/
theorem meeting_recalling (t : Table) {condition : Option Expr}
    (quiet : Expr.quietOr condition = true) :
    t.meeting (env.recalling lastId changes) condition = t.meeting env condition := by
  unfold Table.meeting
  cases condition with
  | none => rfl
  | some e =>
    have same (row : Row) : e.holds ((env.recalling lastId changes).ofRow row.slots) =
        e.holds (env.ofRow row.slots) :=
      holds_recalling (env.ofRow row.slots) lastId changes quiet
    simp only [same]

/-- The cells that quiet assignments give a row do not depend on what the connection remembers. -/
theorem revisedCells_recalling (t : Table) {assignments : List (Option Nat × Expr)}
    (quiet : ∀ assignment ∈ assignments, assignment.2.quiet = true) (row : Row) :
    revisedCells t (env.recalling lastId changes) assignments row =
      revisedCells t env assignments row := by
  refine bind_congr_of_ok (mapM_congr_of_mem fun assignment mem => ?_) fun _ _ => rfl
  refine bind_congr_of_ok ?_ fun _ _ => rfl
  exact Expr.eval_recalling (env.ofRow row.slots) lastId changes _ (quiet assignment mem)

/-- What changing rows comes to does not depend on what the connection remembers. -/
theorem reviseAll_recalling (tables : db.Quiet) (enforcing : Bool) (name : String)
    {assignments : List (Option Nat × Expr)}
    (quiet : ∀ assignment ∈ assignments, assignment.2.quiet = true) (rows : List Row) :
    reviseAll (env.recalling lastId changes) enforcing name assignments db rows =
      reviseAll env enforcing name assignments db rows := by
  induction rows generalizing db with
  | nil => rfl
  | cons row rows ih =>
    rw [reviseAll, reviseAll]
    split
    · rfl
    · next t found =>
      have own : t.quiet = true := tables.of_table? found
      refine bind_congr_of_ok (revisedCells_recalling env lastId changes t quiet row) ?_
      rintro ⟨id, cells⟩ -
      refine bind_congr_of_ok (Table.check_recalling env lastId changes own _ _) fun _ _ => ?_
      have changed : (db.replace (t.exchange row.id ⟨id, cells⟩)).Quiet :=
        tables.replace lasting_quiet found rfl
      cases enforcing with
      | false =>
        refine bind_congr_of_ok rfl fun after done => ?_
        obtain rfl := Except.ok.inj done
        exact bind_congr_of_ok (ih changed) fun _ _ => rfl
      | true =>
        have follows : FollowsQuietly env lastId changes (followFuel db) := .of_fuel _
        refine bind_congr_of_ok (follows.follow changed _ _ _ _) fun after done => ?_
        have safely := withstands_quiet.followsSafely env (followFuel db)
        exact bind_congr_of_ok (ih (safely.follow changed (fun _ _ _ => trivial) done)) fun _ _ => rfl

/-- What removing rows comes to does not depend on what the connection remembers. -/
theorem removeAll_recalling (tables : db.Quiet) (enforcing : Bool) (name : String)
    (rows : List Row) :
    removeAll (env.recalling lastId changes) enforcing name db rows =
      removeAll env enforcing name db rows := by
  induction rows generalizing db with
  | nil => rfl
  | cons row rows ih =>
    rw [removeAll, removeAll]
    split
    · rfl
    · next t found =>
      split
      · exact ih tables
      · next present here =>
        have gone : (db.replace (t.drop present.id)).Quiet := tables.replace lasting_quiet found rfl
        cases enforcing with
        | false =>
          refine bind_congr_of_ok rfl fun after done => ?_
          obtain rfl := Except.ok.inj done
          exact bind_congr_of_ok (ih gone) fun _ _ => rfl
        | true =>
          have follows : FollowsQuietly env lastId changes (followFuel db) := .of_fuel _
          refine bind_congr_of_ok (follows.follow gone _ _ _ _) fun after done => ?_
          have safely := withstands_quiet.followsSafely env (followFuel db)
          exact bind_congr_of_ok (ih (safely.follow gone (fun _ _ _ => trivial) done)) fun _ _ => rfl

/-- What a quiet change does to quiet tables does not depend on what the connection remembers. -/
theorem Revision.Quiet.run_recalling {revision : Revision} (quiet : revision.Quiet)
    (tables : db.Quiet) (enforcing : Bool) :
    revision.run db enforcing (env.recalling lastId changes) = revision.run db enforcing env := by
  have chosen (t : Table) := meeting_recalling env lastId changes t quiet.condition
  have revised := reviseAll_recalling env lastId changes tables enforcing revision.table
    quiet.assignments
  have answers := returned_recalling env lastId changes quiet.returning
  simp only [Revision.run, chosen, revised, answers]

/-- What a quiet removal does to quiet tables does not depend on what the connection remembers. -/
theorem Removal.Quiet.run_recalling {removal : Removal} (quiet : removal.Quiet)
    (tables : db.Quiet) (enforcing : Bool) :
    removal.run db enforcing (env.recalling lastId changes) = removal.run db enforcing env := by
  have chosen (t : Table) := meeting_recalling env lastId changes t quiet.condition
  have removed := removeAll_recalling env lastId changes tables enforcing removal.table
  have answers := returned_recalling env lastId changes quiet.returning
  simp only [Removal.run, chosen, removed, answers]

/-- What the removal of a quiet table comes to does not depend on what the connection remembers. -/
theorem dropTable_recalling (tables : db.Quiet) (enforcing : Bool) (t : Table) :
    db.dropTable enforcing (env.recalling lastId changes) t = db.dropTable enforcing env t := by
  have removed := removeAll_recalling env lastId changes tables true t.name t.rows
  simp only [Database.dropTable, removed]

end Changes

end Registrar.Sql
