import Registrar.Proofs.Outcome

/-!
# Transactions

Every change is carried out in a transaction of its own, which is abandoned as soon as anything
fails.  A statement that inserts, changes or removes rows does not look at the transaction that it
runs in, and leaves it open; so abandoning the transaction brings back the tables as they were, and
committing it leaves what the statement alone does to the store.
-/

namespace Registrar

open Registrar.Sql (Store Action Answer Cell Database Problem)

/-- Whether an action inserts, changes or removes rows. -/
def Sql.Action.ChangesRows : Action → Prop
  | .insert _ | .update _ | .delete _ => True
  | _ => False

/-- A store in a transaction, or in none. -/
def Sql.Store.within (s : Store) (saved : Option Database) : Store :=
  { s with saved }

namespace Sql.Store

open Registrar.Sql (Env Problem Outcome)

/-- What a statement means does not depend on the transaction. -/
theorem prepare_within (s : Store) (saved : Option Database) (source : String)
    (statement : Sql.Statement) :
    (s.within saved).prepare source statement = s.prepare source statement := by
  cases statement <;> rfl

/-- What the first statement of a text means does not depend on the transaction. -/
theorem ready_within (s : Store) (saved : Option Database) (sql : String) :
    (s.within saved).ready sql = s.ready sql := by
  simp only [Store.ready, prepare_within]

/-- A change of rows sees the tables, the settings and what expressions are evaluated for, and
yields an outcome from which the store after it is made. -/
theorem run_eq_outcome {action : Action} (changes : action.ChangesRows) :
    ∃ effect : Database → Bool → Env → Except Problem Outcome, ∀ (s : Store) parameters,
      s.run parameters action = (effect s.database s.enforcing (s.env parameters)).map
        fun outcome => (outcome.answer, s.afterChange outcome) := by
  cases action with
  | insert insertion =>
    refine ⟨insertion.run, fun s parameters => ?_⟩
    simp only [Store.run]
    cases insertion.run s.database s.enforcing (s.env parameters) <;> rfl
  | update revision =>
    refine ⟨revision.run, fun s parameters => ?_⟩
    simp only [Store.run]
    cases revision.run s.database s.enforcing (s.env parameters) <;> rfl
  | delete removal =>
    refine ⟨removal.run, fun s parameters => ?_⟩
    simp only [Store.run]
    cases removal.run s.database s.enforcing (s.env parameters) <;> rfl
  | _ => cases changes

/-- A change of rows does the same in every transaction, and leaves the transaction open. -/
theorem run_within {action : Action} (changes : action.ChangesRows) (s : Store)
    (saved : Option Database) (parameters : List Cell) :
    (s.within saved).run parameters action =
      (s.run parameters action).map fun result => (result.1, result.2.within saved) := by
  obtain ⟨effect, runs⟩ := run_eq_outcome changes
  rw [runs, runs]
  show (effect s.database s.enforcing (s.env parameters)).map _ = _
  cases effect s.database s.enforcing (s.env parameters) <;> rfl

/-- A change of rows leaves the transaction and the settings as they are. -/
theorem frame_of_run {action : Action} (changes : action.ChangesRows) {s after : Store}
    {parameters : List Cell} {answer : Answer}
    (done : s.run parameters action = .ok (answer, after)) :
    after.saved = s.saved ∧ after.enforcing = s.enforcing := by
  obtain ⟨effect, runs⟩ := run_eq_outcome changes
  rw [runs] at done
  cases ran : effect s.database s.enforcing (s.env parameters) with
  | error problem =>
    rw [ran] at done
    cases done
  | ok outcome =>
    rw [ran] at done
    obtain ⟨-, rfl⟩ := Prod.mk.inj (Except.ok.inj done)
    exact ⟨rfl, rfl⟩

end Sql.Store

namespace Call

/-- A statement that, whatever store it is for, changes rows and nothing else if it means
something. -/
def ChangesRows (statement : Statement) : Prop :=
  ∀ store action cells, ready store statement = .ok (action, cells) → action.ChangesRows

/-- What a statement means does not depend on the transaction. -/
theorem ready_within (store : Store) (saved : Option Database) (statement : Statement) :
    ready (store.within saved) statement = ready store statement := by
  simp only [ready, Store.ready_within]

/-- What a change of rows does to a store does not depend on the transaction. -/
theorem runOn_within {statement : Statement} (changes : ChangesRows statement) (store : Store)
    (saved : Option Database) :
    runOn (store.within saved) statement =
      (runOn store statement).map fun result => (result.1, result.2.within saved) := by
  unfold runOn
  rw [ready_within]
  cases means : ready store statement with
  | error fault => rfl
  | ok found =>
    obtain ⟨action, cells⟩ := found
    have within := Store.run_within (changes store action cells means) store saved cells
    simp only [bind, Except.bind, Store.runReady, within]
    cases store.run cells action <;> rfl

/-- What a change of rows leaves as it is. -/
theorem frame_of_runOn {statement : Statement} (changes : ChangesRows statement)
    {store after : Store} {answer : Answer} (done : runOn store statement = .ok (answer, after)) :
    after.saved = store.saved ∧ after.enforcing = store.enforcing := by
  obtain ⟨⟨action, cells⟩, means, done⟩ := bind_eq_ok done
  cases ran : store.run cells action with
  | error problem =>
    simp only [Store.runReady, ran] at done
    cases done
  | ok result =>
    simp only [Store.runReady, ran, Except.ok.injEq] at done
    subst done
    exact Store.frame_of_run (changes store action cells means) ran

/-- The tables, the transaction and the settings of a store are those of another. -/
structure Unchanged (before after : Store) : Prop where
  database : after.database = before.database
  saved : after.saved = before.saved
  enforcing : after.enforcing = before.enforcing

/-- Nothing changes where the store stays. -/
theorem Unchanged.refl (store : Store) : Unchanged store store :=
  ⟨rfl, rfl, rfl⟩

/-- In a transaction of its caller, a change of rows is refused. -/
theorem changeOn_inside {statement : Statement} {before : Store} {saved : Database}
    (inside : before.saved = some saved) :
    changeOn before statement =
      (.error (.statement (Problem.nestedTransaction.bare.seenIn "BEGIN DEFERRED")), before) := by
  simp [changeOn, Store.runReady, Store.run, Store.inTransaction, inside]

/-- Outside of any transaction, a change of rows comes to what its statement alone comes to, except
that nothing is changed where rows are answered. -/
theorem changeOn_outside {statement : Statement} (changes : ChangesRows statement) {before : Store}
    (outside : before.saved = none) :
    changeOn before statement =
      match runOn before statement with
      | .error fault => (.error fault, before)
      | .ok (answer, after) =>
        if answer.rows.isEmpty then (.ok after.changes.toInt.toNat, after)
        else (.error .returnedRows, { after with database := before.database }) := by
  have begun : before.runReady "BEGIN DEFERRED" [] .begin =
      .ok (.none, before.within (some before.database)) := by
    simp [Store.runReady, Store.run, Store.inTransaction, outside, Store.within]
  have within := runOn_within changes before (some before.database)
  have back (store : Store) (closed : store.saved = none) :
      store.within none = store := by
    rw [Store.within, ← closed]
  cases ran : runOn before statement with
  | error fault =>
    rw [ran] at within
    simp only [changeOn, begun, within, Except.map]
    exact congrArg (Prod.mk _) (back before outside)
  | ok result =>
    obtain ⟨answer, after⟩ := result
    rw [ran] at within
    have closed : after.saved = none := (frame_of_runOn changes ran).1.trans outside
    cases rows : answer.rows.isEmpty with
    | false =>
      simp only [changeOn, begun, within, Except.map, rows, Bool.false_eq_true, if_false]
      exact congrArg (Prod.mk _) (back { after with database := before.database } closed)
    | true =>
      have committed : (after.within (some before.database)).runReady "COMMIT" [] .commit =
          .ok (.none, after) := by
        simp only [Store.runReady, Store.run, Store.inTransaction, Store.within,
          Option.isSome_some, if_true]
        exact congrArg (fun s => Except.ok (Answer.none, s)) (back after closed)
      simp only [changeOn, begun, within, Except.map, rows, committed, if_true]

/-- A change of rows fails with nothing changed, or it succeeds outside of any transaction, with the
effect that its statement alone has. -/
theorem changeOn_cases {statement : Statement} (changes : ChangesRows statement) (before : Store) :
    (∃ fault after, changeOn before statement = (.error fault, after) ∧ Unchanged before after) ∨
      ∃ n answer after, changeOn before statement = (.ok n, after) ∧ before.saved = none ∧
        after.saved = none ∧ runOn before statement = .ok (answer, after) ∧ answer.rows = [] := by
  cases outside : before.saved with
  | some saved => exact .inl ⟨_, before, changeOn_inside outside, .refl before⟩
  | none =>
    rw [changeOn_outside changes outside]
    cases ran : runOn before statement with
    | error fault => exact .inl ⟨fault, before, rfl, .refl before⟩
    | ok result =>
      obtain ⟨answer, after⟩ := result
      obtain ⟨saved, enforcing⟩ := frame_of_runOn changes ran
      cases rows : answer.rows.isEmpty with
      | false =>
        exact .inl ⟨.returnedRows, { after with database := before.database }, by simp [rows],
          ⟨rfl, saved, enforcing⟩⟩
      | true =>
        exact .inr ⟨after.changes.toInt.toNat, answer, after, by simp [rows], rfl,
          saved.trans outside, rfl, List.isEmpty_iff.1 rows⟩

/-- A change that succeeds is carried out, and yields the number of rows that the store says have been
changed. -/
theorem of_change {statement : Statement} (changes : ChangesRows statement) {session after : Session}
    {n : Nat} (done : (change statement).outcome session = (.ok n, after)) :
    ∃ answer, runOn session.store statement = .ok (answer, after.store) ∧
      n = after.store.changes.toInt.toNat := by
  rw [outcome_change] at done
  obtain ⟨result, rfl⟩ := Prod.mk.inj done
  rcases changeOn_cases changes session.store with ⟨fault, after, carried, -⟩ |
    ⟨m, answer, after, carried, outside, -, ran, rows⟩
  · rw [carried] at result
    cases result
  · have counted := changeOn_outside changes outside
    rw [ran] at counted
    simp only [rows, List.isEmpty_nil, if_true] at counted
    rw [counted] at result ⊢
    exact ⟨answer, ran, (Except.ok.inj result).symm⟩

end Call

end Registrar
