import Registrar.Accounts
import Registrar.Bootstrap
import Registrar.Proofs.Quiet
import Registrar.Proofs.Schema

/-!
# Calls that forget

A call forgets if nothing that it yields depends on what the connection remembers of earlier changes:
on sessions whose stores are alike it has the same result, logs the same statements and leaves stores
that are alike.  That holds of all calls of a store as long as the statements that they build are
quiet; only the id that an insertion yields is read from the connection, and that is the id of the row
just inserted.
-/

namespace Registrar

open Registrar.Sql (Store Database Action Answer Cell Outcome quietText quietScript)

namespace Sql

/-- As many rows are inserted as there are lists of values. -/
theorem length_insertAll {env : Env} {targets : List (Option Nat)} {values : List (List Expr)}
    {t grown : Table} {counted last : Int} {rows : List Row}
    (done : insertAll env targets t counted values = .ok (grown, last, rows)) :
    rows.length = values.length := by
  induction values generalizing t counted rows with
  | nil =>
    rw [← (Prod.mk.inj (Prod.mk.inj (Except.ok.inj done)).2).2]
    rfl
  | cons value values ih =>
    obtain ⟨⟨first, row⟩, -, done⟩ := bind_eq_ok done
    obtain ⟨⟨others, counted', more⟩, rest, done⟩ := bind_eq_ok done
    obtain ⟨rfl, counts⟩ := Prod.mk.inj (Except.ok.inj done)
    obtain ⟨rfl, rfl⟩ := Prod.mk.inj counts
    rw [List.length_cons, List.length_cons, ih rest]

/-- Where rows are inserted, an insertion is planned with rows. -/
theorem Insertion.Gives.ne_nil {insertion : Insertion} {table : String}
    {columns : Option (List String)} {rows : NewRows} {returning : List Output}
    (gives : insertion.Gives rows)
    (inserts : Statement.InsertsRows (.insert table columns rows returning)) :
    insertion.rows ≠ [] := by
  cases rows with
  | defaults =>
    have own : insertion.rows = [[]] := gives
    rw [own]
    exact List.cons_ne_nil [] []
  | values rows =>
    have resolved : Database.resolveRows ⟨[], [], false, true⟩ rows = .ok insertion.rows := gives
    cases rows with
    | nil => exact absurd rfl inserts
    | cons row rows =>
      obtain ⟨first, -, resolved⟩ := bind_eq_ok resolved
      obtain ⟨others, -, resolved⟩ := bind_eq_ok resolved
      rw [← Except.ok.inj resolved]
      exact List.cons_ne_nil first others

/-- An insertion of rows yields the id of the last one. -/
theorem lastId_of_insertion {insertion : Insertion} {db : Database} {enforcing : Bool} {env : Env}
    {outcome : Outcome} (some : insertion.rows ≠ [])
    (done : insertion.run db enforcing env = .ok outcome) : outcome.lastId ≠ none := by
  unfold Insertion.run at done
  split at done
  · cases done
  · next t found =>
    obtain ⟨⟨grown, counted, rows⟩, inserted, done⟩ := bind_eq_ok done
    have present : rows.getLast?.map Row.id ≠ none := by
      rw [Ne, Option.map_eq_none_iff, List.getLast?_eq_none_iff]
      rintro rfl
      exact some (List.length_eq_zero_iff.1 (length_insertAll inserted).symm)
    cases enforcing with
    | false =>
      obtain ⟨answer, -, done⟩ := bind_eq_ok done
      rw [← Except.ok.inj done]
      exact present
    | true =>
      obtain ⟨_, -, done⟩ := bind_eq_ok done
      obtain ⟨answer, -, done⟩ := bind_eq_ok done
      rw [← Except.ok.inj done]
      exact present

end Sql

namespace Call

variable {α β : Type} {a b : Store} {statement : Statement}

/-! ### Statements -/

/-- What a statement means is the same to stores that are alike. -/
theorem ready_of_unchanged (alike : Unchanged a b) (statement : Statement) :
    ready b statement = ready a statement := by
  simp only [ready, Store.ready_of_unchanged alike]

/-- A quiet statement means something quiet. -/
theorem quiet_of_ready (quiet : a.Quiet) (own : quietText statement.text = true) {action : Action}
    {cells : List Cell} (means : ready a statement = .ok (action, cells)) : action.Quiet := by
  obtain ⟨parsed, built, read, found, prepared⟩ := of_ready means
  refine quiet.quiet_of_prepare ?_ prepared
  simpa only [quietText, read, found, Option.map_some, Option.getD_some] using own

/-- A quiet statement comes to the same on stores that are alike. -/
theorem alike_runOn (own : quietText statement.text = true) (quiet : a.Quiet) (alike : Unchanged a b) :
    Store.Alike (runOn a statement) (runOn b statement) := by
  unfold runOn
  rw [ready_of_unchanged alike]
  cases means : ready a statement with
  | error fault => exact .failed fault
  | ok found =>
    obtain ⟨action, cells⟩ := found
    have ran := Store.alike_runReady (quiet_of_ready quiet own means) quiet alike statement.text cells
    simp only [bind, Except.bind]
    generalize a.runReady statement.text cells action = x at ran ⊢
    generalize b.runReady statement.text cells action = y at ran ⊢
    cases ran with
    | failed e => exact .failed _
    | done answer left => exact .done answer left

/-- A statement that is carried out is run. -/
theorem run_of_runOn {result : Answer × Store} (done : runOn a statement = .ok result) :
    ∃ action cells, ready a statement = .ok (action, cells) ∧ a.run cells action = .ok result := by
  obtain ⟨⟨action, cells⟩, means, done⟩ := bind_eq_ok done
  dsimp only at done
  split at done
  · next ran =>
    rw [← Except.ok.inj done]
    exact ⟨action, cells, means, Store.run_of_runReady ran⟩
  · cases done

/-- What a quiet statement makes of a quiet store is quiet. -/
theorem quiet_of_runOn (own : quietText statement.text = true) (quiet : a.Quiet) {answer : Answer}
    {after : Store} (done : runOn a statement = .ok (answer, after)) : after.Quiet := by
  obtain ⟨action, cells, means, ran⟩ := run_of_runOn done
  exact quiet.run (quiet_of_ready quiet own means) ran

/-- A quiet change of rows comes to the same on stores that are alike, and an insertion yields the id of
a row. -/
theorem outcome_runOn (changes : ChangesRows statement) (own : quietText statement.text = true)
    (quiet : a.Quiet) (alike : Unchanged a b) :
    ∃ result : Except StorageFault Outcome,
      runOn a statement = result.map (fun outcome => (outcome.answer, a.afterChange outcome)) ∧
      runOn b statement = result.map (fun outcome => (outcome.answer, b.afterChange outcome)) ∧
      ((∀ parsed built, Sql.parse statement.text = .ok parsed → parsed.statement = some built →
        built.InsertsRows) → ∀ outcome, result = .ok outcome → outcome.lastId ≠ none) := by
  unfold runOn
  rw [ready_of_unchanged alike]
  cases means : ready a statement with
  | error fault => exact ⟨.error fault, rfl, rfl, fun _ _ => nofun⟩
  | ok found =>
    obtain ⟨action, cells⟩ := found
    obtain ⟨result, first, second, inserting⟩ := Store.outcome_of_quiet (changes a action cells means)
      (quiet_of_ready quiet own means) quiet alike cells
    refine ⟨result.mapError fun problem => .statement (problem.bare.seenIn statement.text), ?_, ?_,
      fun inserts outcome same => ?_⟩
    · simp only [bind, Except.bind, Store.runReady, first]
      cases result <;> rfl
    · simp only [bind, Except.bind, Store.runReady, second]
      cases result <;> rfl
    · obtain ⟨parsed, built, read, found, prepared⟩ := of_ready means
      have own := inserts parsed built read found
      cases built with
      | insert table columns rows returning =>
        obtain ⟨insertion, planned, prepared⟩ := bind_eq_ok prepared
        obtain ⟨t, -, -, -, gives⟩ := Sql.resolved_of_planInsert planned
        have ran := inserting insertion (Except.ok.inj prepared).symm
        cases result with
        | error problem => cases same
        | ok outcome' =>
          obtain rfl := Except.ok.inj same
          exact Sql.lastId_of_insertion (gives.ne_nil own) ran.symm
      | _ => cases own

/-! ### Changes -/

/-- A quiet change of rows is carried out alike on stores that are alike. -/
theorem alike_changeOn (changes : ChangesRows statement) (own : quietText statement.text = true)
    (quiet : a.Quiet) (alike : Unchanged a b) :
    (changeOn b statement).1 = (changeOn a statement).1 ∧
      Unchanged (changeOn a statement).2 (changeOn b statement).2 ∧ (changeOn a statement).2.Quiet := by
  cases inside : a.saved with
  | some saved =>
    rw [changeOn_inside inside, changeOn_inside (alike.saved.trans inside)]
    exact ⟨rfl, alike, quiet⟩
  | none =>
    obtain ⟨result, first, second, -⟩ := outcome_runOn changes own quiet alike
    rw [changeOn_outside changes inside, changeOn_outside changes (alike.saved.trans inside), second]
    cases ran : runOn a statement with
    | error fault =>
      rw [ran] at first
      cases result with
      | error fault' =>
        obtain rfl := Except.error.inj first
        exact ⟨rfl, alike, quiet⟩
      | ok outcome => cases first
    | ok done =>
      obtain ⟨answer, after⟩ := done
      have later := quiet_of_runOn own quiet ran
      rw [ran] at first
      cases result with
      | error fault => cases first
      | ok outcome =>
        obtain ⟨rfl, rfl⟩ := Prod.mk.inj (Except.ok.inj first)
        simp only [Except.map]
        split
        · exact ⟨rfl, ⟨rfl, alike.saved, alike.enforcing⟩, later⟩
        · exact ⟨rfl, ⟨alike.database, alike.saved, alike.enforcing⟩,
            ⟨quiet.database, quiet.saved, quiet.enforcing⟩⟩

/-- The id that a quiet insertion leaves behind is the same on stores that are alike. -/
theorem lastId_changeOn {table : String} {pairs : List (String × Value)}
    (own : quietText (insertStatement table pairs).text = true) (quiet : a.Quiet)
    (alike : Unchanged a b) {n : Nat}
    (done : (changeOn a (insertStatement table pairs)).1 = .ok n) :
    (changeOn b (insertStatement table pairs)).2.lastId =
      (changeOn a (insertStatement table pairs)).2.lastId := by
  have changes := changesRows_insertStatement table pairs
  cases inside : a.saved with
  | some saved =>
    rw [changeOn_inside inside] at done
    cases done
  | none =>
    obtain ⟨result, first, second, inserts⟩ := outcome_runOn changes own quiet alike
    have new := inserts fun _ _ => insertsRows_insertStatement
    rw [changeOn_outside changes inside] at done ⊢
    rw [changeOn_outside changes (alike.saved.trans inside)]
    rw [first] at done ⊢
    rw [second]
    cases result with
    | error fault => cases done
    | ok outcome =>
      simp only [Except.map] at done ⊢
      split at done
      · next rows =>
        cases known : outcome.lastId with
        | none => exact absurd known (new outcome rfl)
        | some id => simp only [rows, if_true, Store.afterChange, known, Option.getD_some]
      · cases done

/-! ### Calls -/

/-- Two sessions after a call: the same was logged, and stores are left that are alike, and quiet. -/
structure LeftAlike (a b left right : Session) : Prop where
  logs : ∀ new, left.log = new ++ a.log → right.log = new ++ b.log
  alike : Unchanged left.store right.store
  quiet : left.store.Quiet

/-- A call forgets: on sessions whose stores are alike, and quiet, it has the same result, logs the same
and leaves stores that are alike, and quiet, if the statements that it logs are quiet. -/
structure Forgets (call : Call α) : Prop where
  grows : ∀ session : Session, ∃ new, (call.outcome session).2.log = new ++ session.log
  same : ∀ a b : Session, a.store.Quiet → Unchanged a.store b.store →
    (∀ new, (call.outcome a).2.log = new ++ a.log → ∀ entry ∈ new, quietText entry.text = true) →
      (call.outcome b).1 = (call.outcome a).1 ∧
        LeftAlike a b (call.outcome a).2 (call.outcome b).2

/-- Nothing is left differently where nothing happens. -/
theorem LeftAlike.stay {a b : Session} (quiet : a.store.Quiet) (alike : Unchanged a.store b.store) :
    LeftAlike a b a b := by
  refine ⟨fun new same => ?_, alike, quiet⟩
  have none : new = [] := List.self_eq_append_left.1 same
  rw [none]
  rfl

/-- What is left alike twice is left alike. -/
theorem LeftAlike.trans {a b middle middle' left right : Session} (first : LeftAlike a b middle middle')
    (grows : ∃ new, middle.log = new ++ a.log) (goesOn : ∃ new, left.log = new ++ middle.log)
    (second : LeftAlike middle middle' left right) : LeftAlike a b left right := by
  obtain ⟨new, log⟩ := grows
  obtain ⟨more, rest⟩ := goesOn
  refine ⟨fun all same => ?_, second.alike, second.quiet⟩
  have both : all = more ++ new := by
    rw [rest, log, ← List.append_assoc] at same
    exact (List.append_cancel_right same).symm
  rw [second.logs more rest, first.logs new log, both, List.append_assoc]

namespace Forgets

/-- A call that leaves the session alone and yields the same whatever the connection remembers
forgets. -/
theorem of_outcome {call : Call α} (result : Session → Except Failure α)
    (stays : ∀ session, call.outcome session = (result session, session))
    (same : ∀ a b : Session, Unchanged a.store b.store → a.store.Quiet → result b = result a) :
    Forgets call := by
  refine ⟨fun session => ⟨[], ?_⟩, fun a b quiet alike _ => ?_⟩
  · rw [stays]
    rfl
  · rw [stays, stays]
    exact ⟨same a b alike quiet, .stay quiet alike⟩

/-- What needs no session forgets. -/
theorem lift (result : Except Failure α) : Forgets (Call.lift result) :=
  of_outcome _ (outcome_lift result) fun _ _ _ _ => rfl

/-- What is known forgets. -/
theorem known (a : α) : Forgets (pure a : Call α) :=
  lift (.ok a)

/-- Steps that forget may follow one another. -/
theorem bind {call : Call α} {next : α → Call β} (first : Forgets call)
    (later : ∀ a, Forgets (next a)) : Forgets (call >>= next) := by
  constructor
  · intro session
    obtain ⟨new, log⟩ := first.grows session
    rcases left : call.outcome session with ⟨f | x, middle⟩
    · rw [left] at log
      rw [outcome_bind_of_error left]
      exact ⟨new, log⟩
    · rw [left] at log
      obtain ⟨more, rest⟩ := (later x).grows middle
      rw [outcome_bind_of_ok left]
      exact ⟨more ++ new, by rw [rest, log, List.append_assoc]⟩
  · intro a b quiet alike own
    obtain ⟨new, log⟩ := first.grows a
    have agrees := first.same a b quiet alike
    rcases left : call.outcome a with ⟨f | x, middle⟩
    · rw [outcome_bind_of_error left] at own ⊢
      rw [left] at agrees
      obtain ⟨result, leaves⟩ := agrees own
      rcases right : call.outcome b with ⟨g, middle'⟩
      rw [right] at result leaves
      dsimp only at result
      subst result
      rw [outcome_bind_of_error right]
      exact ⟨rfl, leaves⟩
    · rw [outcome_bind_of_ok left] at own ⊢
      rw [left] at agrees log
      obtain ⟨more, rest⟩ := (later x).grows middle
      have all : ((next x).outcome middle).2.log = (more ++ new) ++ a.log := by
        rw [rest, log, List.append_assoc]
      have quiets := own (more ++ new) all
      obtain ⟨result, leaves⟩ := agrees fun other same entry mem => by
        rw [List.append_cancel_right (same.symm.trans log)] at mem
        exact quiets entry (List.mem_append_right more mem)
      rcases right : call.outcome b with ⟨g, middle'⟩
      rw [right] at result leaves
      dsimp only at result
      subst result
      rw [outcome_bind_of_ok right]
      obtain ⟨result, leaves'⟩ := (later x).same middle middle' leaves.quiet leaves.alike
        fun other same entry mem => by
          rw [List.append_cancel_right (same.symm.trans rest)] at mem
          exact quiets entry (List.mem_append_left new mem)
      exact ⟨result, leaves.trans ⟨new, log⟩ ⟨more, rest⟩ leaves'⟩

/-- A result that is made of another forgets as that one does. -/
theorem mapped {call : Call α} (first : Forgets call) (f : α → β) : Forgets (f <$> call) := by
  rw [← bind_pure_comp]
  exact first.bind fun a => known (f a)

/-- A result that is not needed forgets as it does. -/
theorem discarded {call : Call α} (first : Forgets call) : Forgets (discard call) := by
  constructor
  · intro session
    rw [outcome_discard]
    exact first.grows session
  · intro a b quiet alike own
    rw [outcome_discard] at own
    rw [outcome_discard, outcome_discard]
    obtain ⟨result, leaves⟩ := first.same a b quiet alike own
    exact ⟨by rw [result], leaves⟩

/-- A step may be followed by what is done about its failure. -/
theorem caught {call : Call α} (first : Forgets call) (handle : Failure → Except Failure α) :
    Forgets (tryCatch call fun f => Call.lift (handle f)) := by
  have outcome (session : Session) : (tryCatch call fun f => Call.lift (handle f)).outcome session =
      ((call.outcome session).1.tryCatch handle, (call.outcome session).2) := by
    rw [outcome_tryCatch]
    rcases call.outcome session with ⟨f | a, after⟩
    · exact outcome_lift (handle f) after
    · rfl
  constructor
  · intro session
    rw [outcome]
    exact first.grows session
  · intro a b quiet alike own
    rw [outcome] at own
    rw [outcome, outcome]
    obtain ⟨result, leaves⟩ := first.same a b quiet alike own
    exact ⟨by rw [result], leaves⟩

/-- Looking at the tables forgets. -/
theorem look {next : Store → Call α} (f : Database → Except Failure α)
    (looks : ∀ store, next store = Call.lift (f store.database)) : Forgets (Call.store >>= next) := by
  refine of_outcome (fun session => f session.store.database) (fun session => ?_) ?_
  · rw [outcome_bind, outcome_store]
    dsimp only
    rw [looks, outcome_lift]
  · intro a b alike _
    rw [alike.database]

/-- A call that logs one statement forgets if it does so where that statement is quiet. -/
theorem of_logged {call : Call α} (e : LogEntry)
    (logs : ∀ session, (call.outcome session).2.log = e :: session.log)
    (same : ∀ a b : Session, a.store.Quiet → Unchanged a.store b.store → quietText e.text = true →
      (call.outcome b).1 = (call.outcome a).1 ∧
        Unchanged (call.outcome a).2.store (call.outcome b).2.store ∧
        (call.outcome a).2.store.Quiet) : Forgets call := by
  refine ⟨fun session => ⟨[e], logs session⟩, fun a b quiet alike own => ?_⟩
  have text := own [e] (logs a) e (List.mem_singleton_self e)
  obtain ⟨result, left, later⟩ := same a b quiet alike text
  refine ⟨result, fun new log => ?_, left, later⟩
  have single : new = [e] := List.append_cancel_right (log.symm.trans (logs a))
  rw [logs b, single]
  rfl

/-- A query is logged first. -/
theorem log_query (statement : Statement) (session : Session) :
    ((Call.query statement).outcome session).2.log = asked statement :: session.log := by
  rw [outcome_query]
  cases runOn session.store statement <;> rfl

/-- A query forgets. -/
theorem query (statement : Statement) : Forgets (Call.query statement) := by
  refine of_logged (asked statement) (log_query statement) fun a b quiet alike own => ?_
  have ran := alike_runOn own quiet alike
  have later (answer : Answer) (after : Store) : runOn a.store statement = .ok (answer, after) →
      after.Quiet := quiet_of_runOn own quiet
  rw [outcome_query, outcome_query]
  generalize runOn a.store statement = x at ran later ⊢
  generalize runOn b.store statement = y at ran ⊢
  cases ran with
  | failed => exact ⟨rfl, alike, quiet⟩
  | done answer left => exact ⟨rfl, left, later answer _ rfl⟩

/-- A change of rows is logged first. -/
theorem log_change (statement : Statement) (session : Session) :
    ((Call.change statement).outcome session).2.log = entry statement :: session.log := by
  rw [outcome_change]

/-- A change of rows forgets. -/
theorem change {statement : Statement} (changes : ChangesRows statement) :
    Forgets (Call.change statement) := by
  refine of_logged (entry statement) (log_change statement) fun a b quiet alike own => ?_
  obtain ⟨result, left, later⟩ := alike_changeOn changes own quiet alike
  rw [outcome_change, outcome_change, result]
  exact ⟨rfl, left, later⟩

/-- The id that an insertion yields is that of its row. -/
theorem insertPairs (table : String) (pairs : List (String × Value)) :
    Forgets (discard (Call.change (insertStatement table pairs)) >>= fun _ =>
      Call.store >>= fun store => pure store.lastId) := by
  have changes := changesRows_insertStatement table pairs
  have outcome (session : Session) :
      (discard (Call.change (insertStatement table pairs)) >>= fun _ =>
        Call.store >>= fun store => pure store.lastId).outcome session =
      (((changeOn session.store (insertStatement table pairs)).1.mapError .storage).map fun _ =>
          (changeOn session.store (insertStatement table pairs)).2.lastId,
        ⟨(changeOn session.store (insertStatement table pairs)).2,
          entry (insertStatement table pairs) :: session.log⟩) := by
    rw [outcome_bind, outcome_discard, outcome_change]
    cases (changeOn session.store (insertStatement table pairs)).1 <;> rfl
  refine of_logged (entry (insertStatement table pairs)) (fun session => by rw [outcome])
    fun a b quiet alike own => ?_
  obtain ⟨result, left, later⟩ := alike_changeOn changes own quiet alike
  rw [outcome, outcome]
  refine ⟨?_, left, later⟩
  dsimp only
  rw [result]
  cases done : (changeOn a.store (insertStatement table pairs)).1 with
  | error fault => rfl
  | ok n =>
    simp only [Except.mapError, Except.map]
    rw [lastId_changeOn own quiet alike done]

/-- An insertion forgets. -/
theorem insert (table : String) (values : Entries Value) : Forgets (Call.insert table values) := by
  have described : Forgets (Call.store >>= fun store => Call.lift (store.database.describe table)) :=
    look (fun db => db.describe table) fun _ => rfl
  have whole : Call.insert table values =
      (Call.store >>= fun store => Call.lift (store.database.describe table)) >>= fun info =>
        Call.lift (Call.insertPairs table values info.insertColumns) >>= fun pairs =>
          discard (Call.change (insertStatement table pairs)) >>= fun _ =>
            Call.store >>= fun store => pure store.lastId := by
    rw [Call.insert, bind_assoc]
  rw [whole]
  exact described.bind fun _ => (lift _).bind fun pairs => insertPairs table pairs

/-- An insertion of a record forgets. -/
theorem insertAs (type : RecordType) (table : String) (values : Entries Value) :
    Forgets (Call.insertAs type table values) :=
  (lift _).bind fun record => insert table record.columnValues

/-- What needs no session may come before what forgets. -/
theorem lifted {x : Except Failure β} {next : β → Call α}
    (later : ∀ b, x = .ok b → Forgets (next b)) : Forgets (Call.lift x >>= next) := by
  cases x with
  | error f =>
    refine of_outcome (fun _ => .error f) (fun session => ?_) fun _ _ _ _ => rfl
    rw [outcome_bind, outcome_lift]
  | ok b => exact later b rfl

/-- A change of rows that a condition means forgets. -/
theorem update (table : String) (values : Entries Value) (condition : Condition) :
    Forgets (Call.update table values condition) :=
  lifted fun _ built => change (changesRows_updateStatement built)

/-- A removal of rows that a condition means forgets. -/
theorem delete (table : String) (condition : Option Condition) :
    Forgets (Call.delete table condition) :=
  lifted fun _ built => change (changesRows_deleteStatement built)

/-- A question forgets. -/
theorem select (question : Question) : Forgets (Call.select question) :=
  (lift _).bind query

/-- A question for one row forgets. -/
theorem selectOne (question : Question) : Forgets (Call.selectOne question) := by
  refine (select question).bind fun rows => ?_
  cases rows with
  | nil => exact lift (.error (.noRow question.table))
  | cons row rows => exact known row

/-- A script of quiet statements forgets. -/
theorem script {text : String} (own : quietScript text = true) : Forgets (Call.script text) := by
  have outcome (session : Session) : (Call.script text).outcome session =
      ((session.store.script text).2.elim (.ok ()) fun e => .error (.storage (.statement e)),
        { session with store := (session.store.script text).1 }) := by
    rw [Call.script, outcome_bind_of_ok (outcome_store session)]
    rcases session.store.script text with ⟨left, none | e⟩ <;> rfl
  refine ⟨fun session => ⟨[], by rw [outcome]; rfl⟩, fun a b quiet alike _ => ?_⟩
  obtain ⟨result, left, later⟩ := Store.alike_runScript (text.length + 1) own quiet alike
  rw [outcome, outcome, Store.script, Store.script, result]
  exact ⟨rfl, fun new same => by rw [List.self_eq_append_left.1 same]; rfl, left, later⟩

/-- Descriptions of tables forget. -/
theorem describe (table : String) : Forgets (Call.describe table) :=
  look (fun db => db.describe table) fun _ => rfl

/-- The names of the tables forget. -/
theorem tableNames : Forgets Call.tableNames :=
  look (fun db => .ok db.tableNames) fun _ => rfl

/-- Descriptions of all tables forget. -/
theorem tableMap : Forgets Call.tableMap :=
  look (fun db => db.describeAll db.tableNames) fun _ => rfl

/-- The question for the number of rows of a table. -/
def counting (table : String) : Statement :=
  ⟨"SELECT COUNT(*) AS count FROM " ++ table, []⟩

/-- What a count of rows yields of what its question comes to. -/
def counted : Except StorageFault (Answer × Store) → Except Failure Nat
  | .error fault => .error (.storage fault)
  | .ok (answer, _) =>
    match answer.rows with
    | [.integer n] :: _ => .ok n.toInt.toNat
    | _ => .ok 0

/-- A count of rows forgets. -/
theorem countRows {table : String} (own : quietText (counting table).text = true) :
    Forgets (Call.countRows table) := by
  refine of_outcome (fun session => counted (runOn session.store (counting table)))
    (fun session => ?_) fun a b alike quiet => ?_
  · have asked : (⟨"SELECT COUNT(*) AS count FROM " ++ table, []⟩ : Statement) = counting table := rfl
    rw [Call.countRows, outcome_bind_of_ok (outcome_store session), asked]
    rcases runOn session.store (counting table) with
      fault | ⟨⟨columns, _ | ⟨_ | ⟨cell, _ | ⟨_, _⟩⟩, rows⟩⟩, after⟩
    · rfl
    · rfl
    · rfl
    · cases cell <;> rfl
    · cases cell <;> rfl
  · have ran := alike_runOn own quiet alike
    generalize runOn a.store (counting table) = x at ran ⊢
    generalize runOn b.store (counting table) = y at ran ⊢
    cases ran <;> rfl

/-! ### Accounts -/

/-- Whether a name is taken forgets. -/
theorem isTaken (name : String) : Forgets (Accounts.isTaken name) :=
  (select _).bind fun _ => known _

/-- A registration forgets. -/
theorem register (hasher : Hasher) (name password : String) :
    Forgets (Accounts.register hasher name password) := by
  refine (lift _).bind fun candidate => (isTaken candidate.1).bind fun taken => ?_
  cases taken with
  | true => exact lift (.error (.userExists candidate.1))
  | false =>
    refine (lift _).bind fun digest => ?_
    have inserts := insert User.recordType.table (User.new candidate.1 digest).record.columnValues
    exact (inserts.caught fun f => .error (Accounts.refusal candidate.1 f)).bind
      fun _ => known _

/-- The user of a name in its normal form forgets. -/
theorem userOfNormal (name : String) : Forgets (Accounts.userOfNormal name) := by
  refine (select _).bind fun rows => ?_
  cases rows with
  | nil => exact lift (.error (.noUser name))
  | cons row rows => exact lift _

/-- The user of a name forgets. -/
theorem userByName (name : String) : Forgets (Accounts.userByName name) :=
  (lift _).bind userOfNormal

/-- A login forgets. -/
theorem authenticate (hasher : Hasher) (name password : String) :
    Forgets (Accounts.authenticate hasher name password) := by
  refine (userByName name).bind fun user => (lift _).bind fun right => ?_
  cases right with
  | true => exact known user
  | false => exact lift (.error (.rejected .wrongPassword))

/-- The user of an id forgets. -/
theorem userById (id : Int64) : Forgets (Accounts.userById id) :=
  (selectOne _).bind fun _ => lift _

/-- Whether a name is taken forgets, the name being brought to its normal form. -/
theorem usernameExists (name : String) : Forgets (Accounts.usernameExists name) :=
  (lift _).bind isTaken

/-- The names of all users forget. -/
theorem usernames : Forgets Accounts.usernames :=
  (select _).bind fun _ => lift _

/-- All users forget. -/
theorem allUsers : Forgets Accounts.allUsers :=
  (select _).bind fun _ => lift _

/-- The script that makes the table of users anew is quiet. -/
theorem quiet_schema : quietScript Bootstrap.schema = true := by
  have blank (fuel : Nat) : Sql.quietTexts fuel (String.ofList ['\n']) = true := by
    cases fuel <;> rfl
  have whole := Bootstrap.schema_eq
  obtain ⟨⟨drops, -⟩, ⟨creates, -⟩, inserts⟩ := Bootstrap.reads_of_texts whole rfl rfl
  have seeded := Sql.quietTexts_of_parse inserts rfl blank
  have created := Sql.quietTexts_of_parse creates rfl seeded
  exact Sql.quietTexts_of_parse drops rfl created _

/-- Initializing a store forgets. -/
theorem bootstrap (hasher : Hasher) (password : String) :
    Forgets (Bootstrap.run hasher password) :=
  (script quiet_schema).bind fun _ => (lift _).bind fun _ => (update _ _ _).discarded

end Forgets

end Call

end Registrar
