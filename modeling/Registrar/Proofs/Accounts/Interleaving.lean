import Registrar.Proofs.Accounts.Accepting

/-!
# Registrations side by side

A registration asks whether the name is taken, hashes the password and inserts the user.  Several of them,
each on a connection of its own, take these steps in any order over the tables of one store; a step is not
interrupted.  Taken one after another without a pause, the steps of one registration are what registering
is.
-/

namespace Registrar

open Registrar.Sql Call

/-- How far a registration has come. -/
inductive Progress where
  /-- Nothing has been asked yet. -/
  | begun (name password : String)
  /-- The name was free when the store was asked. -/
  | free (name secret : String)
  /-- The password has been hashed. -/
  | hashed (name digest : String)
  /-- The registration has returned. -/
  | returned (result : Except Failure User)

namespace Progress

/-- The next step of a registration. -/
def next (hasher : Hasher) : Progress → Call Progress
  | begun name password => do
    let (name, secret) ← Call.lift (Accounts.candidate name password)
    if ← Accounts.isTaken name then throw (.userExists name) else return free name secret
  | free name secret => do
    let digest ← Call.lift (Accounts.hash hasher secret)
    return hashed name digest
  | hashed name digest => do
    let user ← Accounts.enroll (User.new name digest)
    return returned (.ok user)
  | returned result => return returned result

/-- What a registration has come to: a failure ends it. -/
def ofResult : Except Failure Progress → Progress
  | .ok progress => progress
  | .error f => returned (.error f)

/-- Takes the next step on a connection.  Yields the progress and the session after it. -/
def step (hasher : Hasher) (progress : Progress) (session : Session) : Progress × Session :=
  let (result, after) := (progress.next hasher).outcome session
  (ofResult result, after)

/-- The number of steps that are left at most. -/
def left : Progress → Nat
  | begun _ _ => 3
  | free _ _ => 2
  | hashed _ _ => 1
  | returned _ => 0

/-- What a registration has returned. -/
def result? : Progress → Option (Except Failure User)
  | returned result => some result
  | _ => none

/-- The user whom a registration has registered. -/
def user? (progress : Progress) : Option User :=
  progress.result?.bind Except.toOption

end Progress

section Steps

variable {hasher : Hasher}

/-- A registration that has returned takes no step. -/
theorem Progress.step_returned (hasher : Hasher) (result : Except Failure User) (session : Session) :
    (Progress.returned result).step hasher session = (.returned result, session) :=
  rfl

/-- The first step of a registration is to look whether what is needed is given, and to ask whether the
name is taken. -/
theorem Progress.step_begun (hasher : Hasher) (name password : String) (session : Session) :
    (Progress.begun name password).step hasher session =
      match Accounts.candidate name password with
      | .error f => (.returned (.error f), session)
      | .ok (name, secret) =>
        match (Accounts.isTaken name).outcome session with
        | (.error f, after) => (.returned (.error f), after)
        | (.ok true, after) => (.returned (.error (.userExists name)), after)
        | (.ok false, after) => (.free name secret, after) := by
  rw [step, next, outcome_bind, outcome_lift]
  cases Accounts.candidate name password with
  | error f => rfl
  | ok given =>
    dsimp only
    rw [outcome_bind]
    rcases (Accounts.isTaken given.1).outcome session with ⟨f | taken, after⟩
    · rfl
    · cases taken <;> rfl

/-- The second step is to hash the password. -/
theorem Progress.step_free (hasher : Hasher) (name secret : String) (session : Session) :
    (Progress.free name secret).step hasher session =
      match hasher.hash secret with
      | .error message => (.returned (.error (.credential message)), session)
      | .ok digest => (.hashed name digest, session) := by
  rw [step, next, outcome_bind, outcome_lift, Accounts.hash]
  cases hasher.hash secret <;> rfl

/-- The third step is to insert the user. -/
theorem Progress.step_hashed (hasher : Hasher) (name digest : String) (session : Session) :
    (Progress.hashed name digest).step hasher session =
      (.returned ((Accounts.enroll (User.new name digest)).outcome session).1,
        ((Accounts.enroll (User.new name digest)).outcome session).2) := by
  rw [step, next, outcome_bind]
  rcases (Accounts.enroll (User.new name digest)).outcome session with ⟨f | user, after⟩ <;> rfl

/-- Registering is to take the three steps without a pause. -/
theorem outcome_register_eq_steps (hasher : Hasher) (name password : String) (session : Session) :
    let asked := (Progress.begun name password).step hasher session
    let hashed := asked.1.step hasher asked.2
    hashed.1.step hasher hashed.2 =
      (.returned ((Accounts.register hasher name password).outcome session).1,
        ((Accounts.register hasher name password).outcome session).2) := by
  dsimp only
  rw [Progress.step_begun, Accounts.register, outcome_bind, outcome_lift]
  cases Accounts.candidate name password with
  | error f => rfl
  | ok given =>
    dsimp only
    rw [outcome_bind]
    rcases (Accounts.isTaken given.1).outcome session with ⟨f | taken, after⟩
    · rfl
    cases taken with
    | true => rfl
    | false =>
      simp only [Bool.false_eq_true, if_false]
      rw [outcome_bind, outcome_lift, Progress.step_free, Accounts.hash]
      cases hasher.hash given.2 with
      | error message => rfl
      | ok digest => exact Progress.step_hashed hasher _ digest after

/-- Every step brings a registration nearer to its end. -/
theorem Progress.left_step (hasher : Hasher) (progress : Progress) (session : Session) :
    (progress.step hasher session).1.left ≤ progress.left - 1 := by
  cases progress with
  | begun name password =>
    rw [step_begun]
    cases Accounts.candidate name password with
    | error f => exact Nat.zero_le _
    | ok given =>
      dsimp only
      rcases (Accounts.isTaken given.1).outcome session with ⟨f | taken, after⟩
      · exact Nat.zero_le _
      · cases taken with
        | true => exact Nat.zero_le _
        | false => exact Nat.le_refl _
  | free name secret =>
    rw [step_free]
    cases hasher.hash secret with
    | error message => exact Nat.zero_le _
    | ok digest => exact Nat.le_refl _
  | hashed name digest =>
    rw [step_hashed]
    exact Nat.le_refl _
  | returned result => exact Nat.le_refl _

/-- A registration with no steps left has returned. -/
theorem Progress.returned_of_left {progress : Progress} (ended : progress.left = 0) :
    ∃ result, progress = .returned result := by
  cases progress with
  | returned result => exact ⟨result, rfl⟩
  | _ => cases ended

end Steps

/-- Someone who wants to be registered, and the hasher of their password. -/
structure Applicant where
  hasher : Hasher
  name : String
  password : String

/-- A registration on a connection of its own. -/
structure Caller where
  hasher : Hasher
  session : Session
  progress : Progress

/-- Registrations over the tables of one store. -/
structure Crowd where
  database : Database
  callers : List Caller

/-- A connection sees the tables of its store as they are now. -/
def Session.seeing (session : Session) (database : Database) : Session :=
  { session with store := { session.store with database } }

/-- A registration that is to begin, on a connection that has just been opened. -/
def Caller.opened (database : Database) (applicant : Applicant) : Caller :=
  ⟨applicant.hasher, ⟨.opened database, []⟩, .begun applicant.name applicant.password⟩

namespace Crowd

/-- Applicants who are to be registered with one store. -/
def opened (database : Database) (applicants : List Applicant) : Crowd :=
  ⟨database, applicants.map (Caller.opened database)⟩

/-- One caller takes the next step on the tables as they are now. -/
def turn (crowd : Crowd) (i : Nat) : Crowd :=
  match crowd.callers[i]? with
  | none => crowd
  | some caller =>
    let (progress, session) :=
      caller.progress.step caller.hasher (caller.session.seeing crowd.database)
    ⟨session.store.database, crowd.callers.set i { caller with session, progress }⟩

/-- Callers take steps, in the order of a list of places. -/
def run (crowd : Crowd) (turns : List Nat) : Crowd :=
  turns.foldl turn crowd

/-- What the caller of a place has returned. -/
def Returns (crowd : Crowd) (i : Nat) (result : Except Failure User) : Prop :=
  ∃ caller, crowd.callers[i]? = some caller ∧ caller.progress = .returned result

/-- The users who have been registered. -/
def users (crowd : Crowd) : List User :=
  crowd.callers.filterMap fun caller => caller.progress.user?

end Crowd

end Registrar
