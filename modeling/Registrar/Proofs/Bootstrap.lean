import Registrar.Proofs.Mutation
import Registrar.Proofs.Resetting

/-!
# Making the users anew

Making the users anew runs a script, hashes a password and changes it, each on its own: none of these
undoes what those before it did.  A failure therefore leaves the store as the steps before it made it,
which is the store as it was only if the script failed at its first statement.
-/

namespace Registrar

open Registrar.Sql (Store Error nextId)

namespace Call

/-- A script yields nothing but the store after it, if it succeeds. -/
theorem outcome_script_of_ok {text : String} {session : Session} {after : Store}
    (done : session.store.script text = (after, none)) :
    (script text).outcome session = (.ok (), { session with store := after }) := by
  rw [script, outcome_bind_of_ok (outcome_store session), done]
  rfl

/-- A script that fails leaves the store after its last statement that succeeded. -/
theorem outcome_script_of_error {text : String} {session : Session} {after : Store} {e : Error}
    (failed : session.store.script text = (after, some e)) :
    (script text).outcome session =
      (.error (.storage (.statement e)), { session with store := after }) := by
  rw [script, outcome_bind_of_ok (outcome_store session), failed]
  rfl

end Call

open Call

namespace Bootstrap

/-- A store with the new table of users, which has the administrator in it, of an id and without a
password. -/
structure Seeds (before : Store) (id : Int64) (after : Store) : Prop where
  users : after.database.HasUsers [userRow id administrator ""]
  cleared : ∃ cleared, Clears before cleared ∧
    nextId (usersTable []) (cleared.database.counted (usersTable [])) = .ok id ∧
    after.database.others = cleared.database.others
  saved : after.saved = before.saved
  enforcing : after.enforcing = before.enforcing

/-- The administrator has been inserted, with the next id, where the old table had been dropped and the
new one had been created. -/
def InsertsAdministrator (before : Store) (id : Int64) (after : Store) : Prop :=
  ∃ cleared, before.carry dropping dropStatement = .ok cleared ∧
    nextId (usersTable []) (cleared.database.counted (usersTable [])) = .ok id ∧
    after.database = (created cleared).database.enroll [] (userRow id administrator "")

/-- The script fails at its first statement with nothing changed, or at its last one with a table of
users without rows, or it succeeds. -/
theorem script_cases (s : Store) :
    (∃ e, s.script schema = (s, some e)) ∨
    (∃ cleared e, Clears s cleared ∧ s.script schema = (created cleared, some e)) ∨
    ∃ seeded id, Seeds s id seeded ∧ s.script schema = (seeded, none) ∧
      InsertsAdministrator s id seeded := by
  rcases script_of_texts schema_eq rfl rfl s with ⟨fault, -, script⟩ | ⟨cleared, dropped, later⟩
  · exact .inl ⟨_, script⟩
  have clears := clears_of_carry dropped
  have declares := carry_usersDeclaration clears.unnamed
  rcases later with ⟨fault, failed, -⟩ | ⟨empty, declared, later⟩
  · cases declares.symm.trans failed
  obtain rfl := Except.ok.inj (declares.symm.trans declared)
  rcases later with ⟨fault, -, script⟩ | ⟨seeded, inserted, script⟩
  · exact .inr (.inl ⟨cleared, _, clears, script⟩)
  · obtain ⟨id, next, users, others, saved, enforcing, enrolled⟩ :=
      of_carry_seeding clears.unnamed inserted
    exact .inr (.inr ⟨seeded, id, ⟨users, ⟨cleared, clears, next, others⟩,
      saved.trans clears.saved, enforcing.trans clears.enforcing⟩, script,
      ⟨cleared, dropped, next, enrolled⟩⟩)

/-- The script succeeds if its statements do. -/
theorem script_of_carry {s cleared empty seeded : Store}
    (drops : s.carry dropping dropStatement = .ok cleared)
    (declares : cleared.carry usersDeclaration createStatement = .ok empty)
    (inserts : empty.carry seeding insertStatement = .ok seeded) :
    s.script schema = (seeded, none) := by
  rcases script_of_texts schema_eq rfl rfl s with ⟨fault, failed, -⟩ | ⟨left, dropped, later⟩
  · cases drops.symm.trans failed
  obtain rfl := Except.ok.inj (drops.symm.trans dropped)
  rcases later with ⟨fault, failed, -⟩ | ⟨left, declared, later⟩
  · cases declares.symm.trans failed
  obtain rfl := Except.ok.inj (declares.symm.trans declared)
  rcases later with ⟨fault, failed, -⟩ | ⟨left, inserted, script⟩
  · cases inserts.symm.trans failed
  obtain rfl := Except.ok.inj (inserts.symm.trans inserted)
  exact script

/-- The statements of the script succeed if it does. -/
theorem carries_of_script {s seeded : Store} (script : s.script schema = (seeded, none)) :
    ∃ cleared, s.carry dropping dropStatement = .ok cleared ∧
      (created cleared).carry seeding insertStatement = .ok seeded := by
  rcases script_of_texts schema_eq rfl rfl s with ⟨fault, -, failed⟩ | ⟨cleared, dropped, later⟩
  · cases (Prod.mk.inj (script.symm.trans failed)).2
  have declares := carry_usersDeclaration (clears_of_carry dropped).unnamed
  rcases later with ⟨fault, failed, -⟩ | ⟨empty, declared, later⟩
  · cases declares.symm.trans failed
  obtain rfl := Except.ok.inj (declares.symm.trans declared)
  rcases later with ⟨fault, -, failed⟩ | ⟨left, inserted, done⟩
  · cases (Prod.mk.inj (script.symm.trans failed)).2
  · obtain rfl := (Prod.mk.inj (script.symm.trans done)).1
    exact ⟨cleared, dropped, inserted⟩

/-- Where a failure leaves the store. -/
inductive Fails (hasher : Hasher) (password : String) (before : Store) : Failure → Store → Prop
  /-- Dropping the old table has failed: nothing is changed. -/
  | dropping (e : Error) : Fails hasher password before (.storage (.statement e)) before
  /-- Inserting the administrator has failed: the table of users is new and has no rows. -/
  | seeding (e : Error) {cleared : Store} (clears : Clears before cleared) :
    Fails hasher password before (.storage (.statement e)) (created cleared)
  /-- Hashing the password has failed: the administrator is there, without a password. -/
  | hashing {message : String} {id : Int64} {seeded : Store} (seeds : Seeds before id seeded)
    (refused : hasher.hash password = .error message) :
    Fails hasher password before (.credential message) seeded
  /-- Changing the password has failed: the administrator is there, without a password. -/
  | changing {f : Failure} {digest : String} {id : Int64} {seeded after : Store}
    (seeds : Seeds before id seeded) (hashed : hasher.hash password = .ok digest)
    (unchanged : Unchanged seeded after) : Fails hasher password before f after

/-- Giving the administrator a password. -/
def setPassword (digest : String) : Call Unit :=
  discard (Call.update User.recordType.table (Entries.ofList [("password", .text digest)])
    (.scalar (.integer 1)))

/-- Making the users anew runs the script, hashes the password and changes it. -/
theorem run_eq (hasher : Hasher) (password : String) :
    run hasher password = (do
      Call.script schema
      let digest ← Call.lift (Accounts.hash hasher password)
      setPassword digest) :=
  rfl

section Outcome

variable {hasher : Hasher} {password : String} {session : Session} {left : Store}

/-- Making the users anew ends where the script fails. -/
theorem outcome_run_of_script {e : Error} (failed : session.store.script schema = (left, some e)) :
    (run hasher password).outcome session =
      (.error (.storage (.statement e)), { session with store := left }) := by
  rw [run_eq, outcome_bind_of_error (outcome_script_of_error failed)]

/-- Making the users anew ends where the password cannot be hashed. -/
theorem outcome_run_of_hash {message : String}
    (seeded : session.store.script schema = (left, none))
    (refused : hasher.hash password = .error message) :
    (run hasher password).outcome session =
      (.error (.credential message), { session with store := left }) := by
  have hashes : Accounts.hash hasher password = .error (.credential message) := by
    rw [Accounts.hash, refused]
  rw [run_eq, outcome_bind_of_ok (outcome_script_of_ok seeded), hashes]
  exact outcome_bind_of_error (outcome_lift _ _)

/-- Making the users anew ends with the change of the password. -/
theorem outcome_run_of_digest {digest : String}
    (seeded : session.store.script schema = (left, none))
    (hashed : hasher.hash password = .ok digest) :
    (run hasher password).outcome session =
      (setPassword digest).outcome { session with store := left } := by
  have hashes : Accounts.hash hasher password = .ok digest := by rw [Accounts.hash, hashed]
  rw [run_eq, outcome_bind_of_ok (outcome_script_of_ok seeded), hashes]
  exact outcome_bind_of_ok (outcome_lift _ _)

end Outcome

/-- Changing the password fails with nothing changed. -/
theorem unchanged_setPassword {digest : String} {session after : Session} {f : Failure}
    (failed : (setPassword digest).outcome session = (.error f, after)) :
    Unchanged session.store after.store := by
  rw [setPassword, outcome_discard] at failed
  rcases change : (Call.update User.recordType.table (Entries.ofList [("password", .text digest)])
    (.scalar (.integer 1))).outcome session with ⟨g | n, left⟩
  · rw [change] at failed
    obtain rfl := (Prod.mk.inj failed).2
    exact (AllOrNothing.update _ _ _).failed session g left change
  · rw [change] at failed
    cases (Prod.mk.inj failed).1

/-- A failure leaves the store where its step began. -/
theorem fails_of_outcome {hasher : Hasher} {password : String} {session after : Session}
    {f : Failure} (failed : (run hasher password).outcome session = (.error f, after)) :
    Fails hasher password session.store f after.store := by
  rcases script_cases session.store with ⟨e, script⟩ | ⟨cleared, e, clears, script⟩ |
    ⟨seeded, id, seeds, script, -⟩
  · obtain ⟨result, rfl⟩ := Prod.mk.inj ((outcome_run_of_script script).symm.trans failed)
    obtain rfl := Except.error.inj result
    exact .dropping e
  · obtain ⟨result, rfl⟩ := Prod.mk.inj ((outcome_run_of_script script).symm.trans failed)
    obtain rfl := Except.error.inj result
    exact .seeding e clears
  · cases hashed : hasher.hash password with
    | error message =>
      obtain ⟨result, rfl⟩ := Prod.mk.inj ((outcome_run_of_hash script hashed).symm.trans failed)
      obtain rfl := Except.error.inj result
      exact .hashing seeds hashed
    | ok digest =>
      exact .changing seeds hashed
        (unchanged_setPassword ((outcome_run_of_digest script hashed).symm.trans failed))

namespace Fails

variable {hasher : Hasher} {password : String} {before after : Store} {f : Failure}

/-- A failure leaves a transaction, and the settings, as they are. -/
theorem frame (fails : Fails hasher password before f after) :
    after.saved = before.saved ∧ after.enforcing = before.enforcing := by
  cases fails with
  | dropping e => exact ⟨rfl, rfl⟩
  | seeding e clears => exact ⟨clears.saved, clears.enforcing⟩
  | hashing seeds refused => exact ⟨seeds.saved, seeds.enforcing⟩
  | changing seeds hashed unchanged =>
    exact ⟨unchanged.saved.trans seeds.saved, unchanged.enforcing.trans seeds.enforcing⟩

/-- A failure leaves the other tables as they are, unless their rows refer to the users. -/
theorem others (fails : Fails hasher password before f after)
    (free : before.enforcing = false ∨ before.database.referencesTo "users" = []) :
    after.database.others = before.database.others := by
  have seeded {id : Int64} {seeded : Store} (seeds : Seeds before id seeded) :
      seeded.database.others = before.database.others := by
    obtain ⟨cleared, clears, -, others⟩ := seeds.cleared
    exact others.trans (clears.others free)
  cases fails with
  | dropping e => rfl
  | seeding e clears => exact (others_created _).trans (clears.others free)
  | hashing seeds refused => exact seeded seeds
  | changing seeds hashed unchanged =>
    exact (congrArg Sql.Database.others unchanged.database).trans (seeded seeds)

/-- A failure leaves the users as they are, or none, or the administrator without a password. -/
theorem users (fails : Fails hasher password before f after) :
    after = before ∨ after.database.HasUsers [] ∨
      ∃ id, after.database.HasUsers [userRow id administrator ""] := by
  cases fails with
  | dropping e => exact .inl rfl
  | seeding e clears => exact .inr (.inl (hasUsers_created clears.unnamed))
  | hashing seeds refused => exact .inr (.inr ⟨_, seeds.users⟩)
  | changing seeds hashed unchanged =>
    exact .inr (.inr ⟨_, unchanged.database ▸ seeds.users⟩)

end Fails

end Bootstrap

open Bootstrap

/-- A hasher that hashes nothing. -/
def refuser : Hasher :=
  ⟨fun _ => .error "cannot hash", fun _ _ => .ok false⟩

/-- The table of the greatest ids, with the greatest one given to a user. -/
def userCount (n : Int64) : Sql.Table :=
  { Sql.sequenceTable with rows := [⟨1, [.text "users", .integer n]⟩] }

/-- A store with the administrator and a user. -/
def crewed : Store :=
  .opened ⟨[.table (userCount 2),
    .table (usersTable [userRow 1 "admin" "d1", userRow 2 "worf" "d2"])]⟩

/-- A store with the administrator only, who has no password. -/
def seededStore : Store :=
  ⟨⟨[.table (userCount 1), .table (usersTable [userRow 1 "admin" ""])]⟩, none, true, 1, 1⟩

/-- The script succeeds on the store of a user. -/
theorem script_crewed :
    Seeds crewed 1 seededStore ∧ crewed.script schema = (seededStore, none) := by
  have drops : crewed.carry dropping dropStatement =
      .ok (.opened ⟨[.table Sql.sequenceTable]⟩) := rfl
  have clears := clears_of_carry drops
  have declares := carry_usersDeclaration clears.unnamed
  have inserts : (created (.opened ⟨[.table Sql.sequenceTable]⟩)).carry seeding insertStatement =
      .ok seededStore := rfl
  obtain ⟨id, next, users, others, saved, enforcing, -⟩ := of_carry_seeding clears.unnamed inserts
  obtain rfl : 1 = id := Except.ok.inj next
  exact ⟨⟨users, ⟨_, clears, next, others⟩, saved, enforcing⟩,
    script_of_carry drops declares inserts⟩

end Registrar
