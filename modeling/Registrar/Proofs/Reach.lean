import Registrar.Bootstrap
import Registrar.Proofs.Leading
import Registrar.Proofs.Sql.Soundness

/-!
# What stores come to

The stores that there can be: a new one, one that is opened again, and what a statement makes of one of
these.  Their tables are sound, whatever the statements were.  Whatever a call does it does by
statements, so that it makes such a store of such a store.
-/

namespace Registrar

open Registrar.Sql (Store Database Action Answer Cell)

namespace Sql.Store

/-- The stores that there can be. -/
inductive Reached : Store → Prop
  /-- A new store. -/
  | opened : Reached (.opened .empty)
  /-- A store that is opened again, with the tables that were kept. -/
  | reopened {s : Store} {db : Database} (before : Reached s)
    (kept : db = s.database ∨ db = s.committed) : Reached (.opened db)
  /-- What a statement makes of a store. -/
  | ran {s after : Store} {source : String} {statement : Sql.Statement} {action : Action}
    {parameters : List Cell} {answer : Answer} (before : Reached s)
    (means : s.prepare source statement = .ok action)
    (done : s.run parameters action = .ok (answer, after)) : Reached after

/-- The tables of a store are sound, and so are those to go back to. -/
structure Sound (s : Store) : Prop where
  database : s.database.Sound
  saved : ∀ db, s.saved = some db → db.Sound

section Running

variable {s after : Store} {source : String} {statement : Sql.Statement} {action : Action}
  {parameters : List Cell} {answer : Answer}

/-- What a statement may make of the tables of a store without looking at rows. -/
inductive Declares (s : Store) (source : String) : Database → Prop
  | table {name : WrittenName} {ifMissing : Bool} {columns : List ColumnDecl} {rules : List TableRule}
    {db : Database} (creates : s.database.createTable source name ifMissing columns rules = .ok db) :
    Declares s source db
  | view {name : WrittenName} {ifMissing : Bool} {columns : List String} {query : Select}
    {db : Database} (creates : s.database.createView source name ifMissing columns query = .ok db) :
    Declares s source db
  | removal (name : String) : Declares s source (s.database.remove name)

/-- A statement that makes tables of others declares a table or a view, or removes a view. -/
theorem become_of_prepare {db : Database} (means : s.prepare source statement = .ok (.become db)) :
    (∃ name ifMissing columns rules, statement = .createTable name ifMissing columns rules ∧
      s.database.createTable source name ifMissing columns rules = .ok db) ∨
    (∃ name ifMissing columns query, statement = .createView name ifMissing columns query ∧
      s.database.createView source name ifMissing columns query = .ok db) ∨
    ∃ name, db = s.database.remove name := by
  cases statement with
  | select query =>
    obtain ⟨plan, -, means⟩ := bind_eq_ok means
    cases means
  | insert table columns rows returning =>
    obtain ⟨insertion, -, means⟩ := bind_eq_ok means
    cases means
  | update table assignments condition returning =>
    obtain ⟨revision, -, means⟩ := bind_eq_ok means
    cases means
  | delete table condition returning =>
    obtain ⟨removal, -, means⟩ := bind_eq_ok means
    cases means
  | createTable name ifMissing columns rules =>
    obtain ⟨created, creates, means⟩ := bind_eq_ok means
    obtain rfl := Action.become.inj (Except.ok.inj means)
    exact .inl ⟨name, ifMissing, columns, rules, rfl, creates⟩
  | createView name ifMissing columns query =>
    obtain ⟨created, creates, means⟩ := bind_eq_ok means
    obtain rfl := Action.become.inj (Except.ok.inj means)
    exact .inr (.inl ⟨name, ifMissing, columns, query, rfl, creates⟩)
  | drop isView ifPresent name =>
    have means : s.prepareDrop isView ifPresent name = .ok (.become db) := means
    unfold prepareDrop at means
    split at means
    · split at means
      · cases means
      · split at means <;> cases means
    · split at means
      · cases means
      · split at means
        · cases means
        · obtain rfl := Action.become.inj (Except.ok.inj means)
          exact .inr (.inr ⟨name, rfl⟩)
        · cases means
        · cases means
  | pragma name value =>
    simp only [prepare] at means
    split at means
    · split at means <;> cases means
    · cases means
  | _ => cases means

/-- What such a statement makes of the tables is a declaration or a removal. -/
theorem declares_of_prepare {db : Database}
    (means : s.prepare source statement = .ok (.become db)) : s.Declares source db := by
  rcases become_of_prepare means with ⟨_, _, _, _, -, creates⟩ | ⟨_, _, _, _, -, creates⟩ | ⟨name, rfl⟩
  · exact .table creates
  · exact .view creates
  · exact .removal name

/-- What a statement makes of a store. -/
inductive Ran (s : Store) (parameters : List Cell) : Action → Store → Prop
  | inserted {insertion : Insertion} {outcome : Outcome}
    (ran : insertion.run s.database s.enforcing (s.env parameters) = .ok outcome) :
    Ran s parameters (.insert insertion) (s.afterChange outcome)
  | updated {revision : Revision} {outcome : Outcome}
    (ran : revision.run s.database s.enforcing (s.env parameters) = .ok outcome) :
    Ran s parameters (.update revision) (s.afterChange outcome)
  | deleted {removal : Removal} {outcome : Outcome}
    (ran : removal.run s.database s.enforcing (s.env parameters) = .ok outcome) :
    Ran s parameters (.delete removal) (s.afterChange outcome)
  | became (db : Database) : Ran s parameters (.become db) { s with database := db }
  | dropped {t : Table} {db : Database}
    (dropped : s.database.dropTable s.enforcing (s.env parameters) t = .ok db) :
    Ran s parameters (.drop t) { s with database := db }
  | begun (outside : s.saved = none) : Ran s parameters .begin { s with saved := some s.database }
  | committed : Ran s parameters .commit { s with saved := none }
  | rolledBack {db : Database} (saved : s.saved = some db) :
    Ran s parameters .rollback { s with database := db, saved := none }
  | set (on : Bool) : Ran s parameters (.setEnforcing on) { s with enforcing := on }
  /-- The store stays as it is. -/
  | still (action : Action) : Ran s parameters action s

/-- A statement that succeeds makes something of the store. -/
theorem ran_of_run (done : s.run parameters action = .ok (answer, after)) :
    s.Ran parameters action after := by
  cases action with
  | insert insertion =>
    obtain ⟨outcome, ran, done⟩ := bind_eq_ok done
    obtain ⟨-, rfl⟩ := Prod.mk.inj (Except.ok.inj done)
    exact .inserted ran
  | update revision =>
    obtain ⟨outcome, ran, done⟩ := bind_eq_ok done
    obtain ⟨-, rfl⟩ := Prod.mk.inj (Except.ok.inj done)
    exact .updated ran
  | delete removal =>
    obtain ⟨outcome, ran, done⟩ := bind_eq_ok done
    obtain ⟨-, rfl⟩ := Prod.mk.inj (Except.ok.inj done)
    exact .deleted ran
  | become database =>
    obtain ⟨-, rfl⟩ := Prod.mk.inj (Except.ok.inj done)
    exact .became database
  | drop t =>
    obtain ⟨database, dropped, done⟩ := bind_eq_ok done
    obtain ⟨-, rfl⟩ := Prod.mk.inj (Except.ok.inj done)
    exact .dropped dropped
  | begin =>
    simp only [Store.run] at done
    split at done
    · cases done
    · next outside =>
      obtain ⟨-, rfl⟩ := Prod.mk.inj (Except.ok.inj done)
      exact .begun (by simpa [inTransaction] using outside)
  | commit =>
    simp only [Store.run] at done
    split at done
    · obtain ⟨-, rfl⟩ := Prod.mk.inj (Except.ok.inj done)
      exact .committed
    · cases done
  | rollback =>
    simp only [Store.run] at done
    split at done
    · next database saved =>
      obtain ⟨-, rfl⟩ := Prod.mk.inj (Except.ok.inj done)
      exact .rolledBack saved
    · cases done
  | setEnforcing on =>
    simp only [Store.run] at done
    split at done
    · obtain ⟨-, rfl⟩ := Prod.mk.inj (Except.ok.inj done)
      exact .still _
    · obtain ⟨-, rfl⟩ := Prod.mk.inj (Except.ok.inj done)
      exact .set on
  | select plan =>
    obtain ⟨shown, -, done⟩ := bind_eq_ok done
    obtain ⟨-, rfl⟩ := Prod.mk.inj (Except.ok.inj done)
    exact .still _
  | _ =>
    obtain ⟨-, rfl⟩ := Prod.mk.inj (Except.ok.inj done)
    exact .still _

/-- The tables that a statement declares are sound. -/
theorem Sound.becomes {db : Database} (sound : s.Sound) (declares : s.Declares source db) :
    db.Sound := by
  cases declares with
  | table creates => exact sound_of_createTable sound.database creates
  | view creates => exact sound_of_createView sound.database creates
  | removal name => exact sound.database.remove name

/-- Where the tables of a store are sound, a statement leaves them sound. -/
theorem Sound.run (sound : s.Sound) (means : s.prepare source statement = .ok action)
    (done : s.run parameters action = .ok (answer, after)) : after.Sound := by
  cases ran_of_run done with
  | inserted ran => exact ⟨sound_of_insertion sound.database ran, sound.saved⟩
  | updated ran => exact ⟨sound_of_revision sound.database ran, sound.saved⟩
  | deleted ran => exact ⟨sound_of_removal sound.database ran, sound.saved⟩
  | became db => exact ⟨sound.becomes (declares_of_prepare means), sound.saved⟩
  | dropped dropped => exact ⟨sound_of_dropTable sound.database dropped, sound.saved⟩
  | begun => exact ⟨sound.database, fun db same => Option.some.inj same ▸ sound.database⟩
  | committed => exact ⟨sound.database, nofun⟩
  | rolledBack saved => exact ⟨sound.saved _ saved, nofun⟩
  | set => exact ⟨sound.database, sound.saved⟩
  | still => exact sound

end Running

/-- What holds of the tables of a store and of those to go back to holds of those that are kept. -/
theorem of_committed {Q : Database → Prop} {s : Store} (holds : Q s.database) (saved : ∀ db, s.saved = some db → Q db) :
    Q s.committed := by
  cases kept : s.saved with
  | none =>
    rw [Store.committed, kept]
    exact holds
  | some database =>
    rw [Store.committed, kept]
    exact saved database kept

namespace Reached

variable {s : Store}

/-- The tables of every store that there can be are sound. -/
theorem sound (reached : s.Reached) : s.Sound := by
  induction reached with
  | opened => exact ⟨nofun, nofun⟩
  | reopened before kept sound =>
    refine ⟨?_, nofun⟩
    rcases kept with rfl | rfl
    · exact sound.database
    · exact of_committed sound.database sound.saved
  | ran before means done sound => exact sound.run means done

/-- A statement of a text that is found meaningful makes a store that there can be of one. -/
theorem runReady {after : Store} {sql text : String} {ready : Store.Ready} {action : Action}
    {parameters : List Cell} {answer : Answer} (reached : s.Reached)
    (means : s.ready sql = .ok ready) (acts : ready.action = some action)
    (done : s.runReady text parameters action = .ok (answer, after)) : after.Reached := by
  obtain ⟨parsed, statement, -, -, prepared⟩ := of_ready means acts
  exact .ran reached prepared (run_of_runReady done)

/-- A script makes a store that there can be of one. -/
theorem runScript (fuel : Nat) {sql : String} (reached : s.Reached) :
    (Store.runScript fuel s sql).1.Reached := by
  induction fuel generalizing s sql with
  | zero => exact reached
  | succ fuel ih =>
    rw [Store.runScript]
    split
    · exact reached
    · next ready means =>
      split
      · exact reached
      · next action acts =>
        split
        · exact reached
        · next answer after done =>
          have later := reached.runReady means acts done
          split
          · exact later
          · exact ih later

/-- A transaction may be begun, ended or abandoned. -/
theorem transaction {after : Store} {text : String} {action : Action} {answer : Answer}
    (reached : s.Reached) (among : action = .begin ∨ action = .commit ∨ action = .rollback)
    (done : s.runReady text [] action = .ok (answer, after)) : after.Reached := by
  have ran := run_of_runReady done
  rcases among with rfl | rfl | rfl
  · have means : s.prepare text .begin = .ok .begin := rfl
    exact .ran reached means ran
  · have means : s.prepare text .commit = .ok .commit := rfl
    exact .ran reached means ran
  · have means : s.prepare text .rollback = .ok .rollback := rfl
    exact .ran reached means ran

end Reached

end Sql.Store

namespace Call

variable {α β : Type}

/-- A statement makes a store that there can be of one. -/
theorem reached_runOn {store after : Store} {statement : Statement} {answer : Answer}
    (reached : store.Reached) (done : runOn store statement = .ok (answer, after)) :
    after.Reached := by
  obtain ⟨⟨action, cells⟩, means, done⟩ := bind_eq_ok done
  unfold ready at means
  split at means
  · cases means
  · next ready found =>
    obtain ⟨bound, -, means⟩ := bind_eq_ok means
    split at means
    · next action acts =>
      obtain ⟨rfl, rfl⟩ := Prod.mk.inj (Except.ok.inj means)
      dsimp only at done
      split at done
      · next result ran =>
        obtain rfl := Except.ok.inj done
        exact reached.runReady found acts ran
      · cases done
    · cases means

/-- Abandoning a transaction makes a store that there can be of one. -/
theorem reached_abandon {store : Store} (reached : store.Reached) : (abandon store).Reached := by
  unfold abandon
  split
  · next ended => exact reached.transaction (.inr (.inr rfl)) ended
  · exact reached

/-- A change makes a store that there can be of one. -/
theorem reached_changeOn {store : Store} (reached : store.Reached) (statement : Statement) :
    (changeOn store statement).2.Reached := by
  unfold changeOn
  split
  · exact reached
  · next begins =>
    have begun := reached.transaction (.inl rfl) begins
    split
    · exact reached_abandon begun
    · next ran =>
      have changed := reached_runOn begun ran
      split
      · split
        · exact reached_abandon changed
        · next ended => exact changed.transaction (.inr (.inl rfl)) ended
      · exact reached_abandon changed

/-- A call makes a store that there can be of one, also where it fails. -/
structure Reaches (call : Call α) : Prop where
  reached : ∀ session : Session, session.store.Reached → (call.outcome session).2.store.Reached

/-- A store that there can be is followed by another. -/
def StaysReached (before after : Session) : Prop :=
  before.store.Reached → after.store.Reached

instance : IsPreorder Session StaysReached where
  refl _ := id
  trans _ _ _ first second := second ∘ first

/-- A script leads to a store that there can be. -/
theorem staysReached_script (text : String) : Leads StaysReached (script text) := by
  intro session reached
  have after : (session.store.script text).1.Reached := reached.runScript (text.length + 1)
  rw [script, outcome_bind_of_ok (outcome_store session)]
  rcases ran : session.store.script text with ⟨left, none | e⟩
  · rw [ran] at after
    exact after
  · rw [ran] at after
    exact after

/-- A query leads to a store that there can be. -/
theorem staysReached_query (statement : Statement) : Leads StaysReached (query statement) := by
  intro session reached
  rw [outcome_query]
  cases ran : runOn session.store statement with
  | error fault => exact reached
  | ok result => exact reached_runOn reached ran

/-- A change leads to a store that there can be. -/
theorem staysReached_change (statement : Statement) : Leads StaysReached (change statement) := by
  intro session reached
  rw [outcome_change]
  exact reached_changeOn reached statement

namespace Reaches

/-- A call that leads from store to store, both of which there can be, makes such stores. -/
theorem of_leads {call : Call α} (leads : Leads StaysReached call) : Reaches call :=
  ⟨leads⟩

/-- An insertion is one of such calls. -/
theorem insert (table : String) (values : Entries Value) : Reaches (Call.insert table values) :=
  of_leads (.insert staysReached_change table values)

/-- A removal of rows is one of such calls. -/
theorem delete (table : String) (condition : Option Condition) :
    Reaches (Call.delete table condition) :=
  of_leads (Leads.bind (.lift _) staysReached_change)

/-- Inserting a user is one of such calls. -/
theorem enroll (name digest : String) : Reaches (Accounts.enroll (User.new name digest)) :=
  of_leads (.enroll staysReached_change _)

/-- A registration is one of such calls. -/
theorem register (hasher : Hasher) (name password : String) :
    Reaches (Accounts.register hasher name password) := by
  refine of_leads (Leads.bind (.lift _) fun candidate => ?_)
  have selects : Leads StaysReached (select (Accounts.questionForTaken candidate.1)) :=
    Leads.bind (.lift _) staysReached_query
  have asks : Leads StaysReached (Accounts.isTaken candidate.1) := selects.bind fun rows => .known _
  refine asks.bind fun taken => ?_
  cases taken with
  | true => exact .lift (.error (.userExists candidate.1))
  | false => exact Leads.bind (.lift _) fun digest => .enroll staysReached_change _

/-- Initializing a store is one of such calls. -/
theorem bootstrap (hasher : Hasher) (password : String) :
    Reaches (Bootstrap.run hasher password) := by
  have updates (table : String) (values : Entries Value) (condition : Condition) :
      Leads StaysReached (update table values condition) := Leads.bind (.lift _) staysReached_change
  refine of_leads ((staysReached_script _).bind fun _ => Leads.bind (.lift _) fun digest => ?_)
  exact (updates _ _ _).discarded

end Reaches

end Call

end Registrar
