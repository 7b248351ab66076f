import Registrar.Proofs.Accounts.History
import Registrar.Proofs.Accounts.Interleaving

/-!
# Rivals for a name

However the steps of several registrations are interleaved, no name is given twice, and whoever comes too
late is told so: the name is found taken when it is asked for, or the store refuses the second row of it.
What is said of all callers is kept by every single step, and so by every sequence of steps.
-/

namespace Registrar

open Registrar.Text Registrar.Sql Registrar.Sql.Database Call

section Lists

variable {α β : Type} {f : α → Option β} {items : List α} {i : Nat} {a b : α}

/-- What is picked out of a list does not change where one item is replaced by one that yields the same. -/
theorem filterMap_set_of_eq (here : items[i]? = some a) (same : f b = f a) :
    (items.set i b).filterMap f = items.filterMap f := by
  induction items generalizing i with
  | nil => cases here
  | cons item items ih =>
    cases i with
    | zero =>
      obtain rfl := Option.some.inj here
      simp [List.filterMap_cons, same]
    | succ i => simp [List.filterMap_cons, ih here]

/-- One more is picked out of a list where an item that yields nothing is replaced by one that does. -/
theorem filterMap_set_perm {c : β} (here : items[i]? = some a) (none : f a = none)
    (some : f b = some c) : ((items.set i b).filterMap f).Perm (items.filterMap f ++ [c]) := by
  induction items generalizing i with
  | nil => cases here
  | cons item items ih =>
    cases i with
    | zero =>
      obtain rfl := Option.some.inj here
      simpa [List.filterMap_cons, none, some] using (List.perm_append_singleton c _).symm
    | succ i =>
      have rest := ih here
      cases yields : f item with
      | none => simpa [List.filterMap_cons, yields] using rest
      | some d => simpa [List.filterMap_cons, yields] using rest.cons d

/-- Fewer are picked out of a list than it has items, if one of the items yields nothing. -/
theorem length_filterMap_lt (here : items[i]? = some a) (none : f a = none) :
    (items.filterMap f).length < items.length := by
  induction items generalizing i with
  | nil => cases here
  | cons item items ih =>
    cases i with
    | zero =>
      obtain rfl := Option.some.inj here
      rw [List.filterMap_cons, none]
      exact Nat.lt_succ_of_le (List.length_filterMap_le f items)
    | succ i =>
      have fewer := ih here
      rw [List.filterMap_cons]
      split
      · exact Nat.lt_succ_of_lt fewer
      · exact Nat.succ_lt_succ fewer

/-- What two lists agree in, place by place, they still agree in where an item of the one is replaced by one
that agrees with the item of the other. -/
theorem forall_set {γ : Type} {others : List γ} {P : α → γ → Prop} {c : γ}
    (each : ∀ (j : Nat) (x : α) (y : γ), items[j]? = some x → others[j]? = some y → P x y)
    (own : others[i]? = some c) (holds : P a c) (j : Nat) (x : α) (y : γ)
    (here : (items.set i a)[j]? = some x) (there : others[j]? = some y) : P x y := by
  rw [List.getElem?_set] at here
  split at here
  · next place =>
    subst place
    split at here
    · obtain rfl := Option.some.inj here
      obtain rfl := Option.some.inj (own.symm.trans there)
      exact holds
    · cases here
  · exact each j x y here there

end Lists

/-- What someone wants to be registered with: the normal form of their name, and a digest of their
password.  Whoever has no such name or password, or whose password cannot be hashed, wants nothing. -/
def Applicant.Wants (applicant : Applicant) (name digest : String) : Prop :=
  ∃ secret, Accounts.candidate applicant.name applicant.password = .ok (name, secret) ∧
    applicant.hasher.hash secret = .ok digest

/-- What is known of a registration: some accounts were there before all registrations began, some have
been added since, and the ids may be used up. -/
def Applicant.Stands (applicant : Applicant) (accounts new : List Account) (full : Prop) :
    Progress → Prop
  | .begun name password => name = applicant.name ∧ password = applicant.password
  | .free name secret => Accounts.candidate applicant.name applicant.password = .ok (name, secret)
  | .hashed name digest => applicant.Wants name digest
  | .returned (.ok user) => ∃ account ∈ new, user = account.user ∧
      applicant.Wants account.name account.digest
  | .returned (.error f) => ∀ name digest, applicant.Wants name digest →
      (f = .userExists name ∧ ∃ account ∈ accounts ++ new, account.name = name) ∨ full

/-- What is known of a registration stays known when there are more accounts. -/
theorem Applicant.Stands.mono {applicant : Applicant} {accounts new : List Account} {full : Prop}
    {progress : Progress} (stands : applicant.Stands accounts new full progress) (account : Account) :
    applicant.Stands accounts (new ++ [account]) full progress := by
  match progress, stands with
  | .begun _ _, stands | .free _ _, stands | .hashed _ _, stands => exact stands
  | .returned (.ok _), ⟨own, mem, stands⟩ => exact ⟨own, List.mem_append_left _ mem, stands⟩
  | .returned (.error _), stands =>
    intro name digest wants
    refine (stands name digest wants).imp_left fun ⟨same, other, mem, named⟩ => ⟨same, other, ?_, named⟩
    rw [← List.append_assoc]
    exact List.mem_append_left _ mem

/-- Whoever wants to be registered is a candidate of one name and one password only. -/
theorem Applicant.Wants.of_candidate {applicant : Applicant} {name digest other secret : String}
    (wants : applicant.Wants name digest)
    (found : Accounts.candidate applicant.name applicant.password = .ok (other, secret)) :
    name = other ∧ applicant.hasher.hash secret = .ok digest := by
  obtain ⟨own, known, hashed⟩ := wants
  rw [found] at known
  obtain ⟨rfl, rfl⟩ := Prod.mk.inj (Except.ok.inj known)
  exact ⟨rfl, hashed⟩

/-- A connection on which nothing has been changed, whatever tables it sees. -/
def Session.IsFresh (session : Session) : Prop :=
  ∃ db, session.store = .opened db

/-- On such a connection tables are seen as on one that has just been opened. -/
theorem Session.IsFresh.seeing {session : Session} (fresh : session.IsFresh) (db : Database) :
    (session.seeing db).store = .opened db := by
  obtain ⟨before, store⟩ := fresh
  rw [Session.seeing, store]
  rfl

namespace Crowd

/-- What is kept by every step of a crowd: the store has the accounts that it had and those that have been
added, and it remembers the greatest id; those who have been registered have the new accounts; and
something is known of every registration. -/
structure Agrees (crowd : Crowd) (applicants : List Applicant) (accounts new : List Account)
    (last : Int64) : Prop where
  directory : Directory (.opened crowd.database) (accounts ++ new)
  reached : (Store.opened crowd.database).Reached
  remembers : ∃ greatest, Remembers crowd.database greatest ∧
    greatest.toInt = last.toInt + new.length
  among : ∀ account ∈ accounts ++ new, account.id.toInt ≤ last.toInt + new.length
  users : crowd.users.Perm (new.map Account.user)
  length : crowd.callers.length = applicants.length
  least : 0 ≤ last.toInt
  stands : ∀ (i : Nat) (caller : Caller) (applicant : Applicant), crowd.callers[i]? = some caller →
    applicants[i]? = some applicant → caller.hasher = applicant.hasher ∧
      (caller.progress.result? = none → caller.session.IsFresh) ∧
      applicant.Stands accounts new (Int64.maxValue.toInt < last.toInt + applicants.length) caller.progress

/-- A step of the caller of a place. -/
theorem turn_of_step {crowd : Crowd} {i : Nat} {caller : Caller} {progress : Progress} {session : Session}
    (here : crowd.callers[i]? = some caller)
    (stepped : caller.progress.step caller.hasher (caller.session.seeing crowd.database) =
      (progress, session)) :
    crowd.turn i =
      ⟨session.store.database, crowd.callers.set i { caller with session, progress }⟩ := by
  simp only [turn, here, stepped]

namespace Agrees

variable {crowd : Crowd} {applicants : List Applicant} {accounts new : List Account} {last : Int64}
  {i : Nat} {caller : Caller} {applicant : Applicant}

/-- A step that does not change the tables keeps what is kept. -/
theorem stay (agrees : crowd.Agrees applicants accounts new last)
    (here : crowd.callers[i]? = some caller) (own : applicants[i]? = some applicant)
    {session : Session} {progress : Progress} (same : session.store.database = crowd.database)
    (users : progress.user? = caller.progress.user?)
    (fresh : progress.result? = none → session.IsFresh)
    (stands : applicant.Stands accounts new (Int64.maxValue.toInt < last.toInt + applicants.length) progress) :
    Crowd.Agrees ⟨session.store.database, crowd.callers.set i { caller with session, progress }⟩
      applicants accounts new last := by
  rw [same]
  refine ⟨agrees.directory, agrees.reached, agrees.remembers, agrees.among, ?_, ?_, agrees.least, ?_⟩
  · rw [Crowd.users, filterMap_set_of_eq here users]
    exact agrees.users
  · rw [List.length_set]
    exact agrees.length
  · exact forall_set agrees.stands own ⟨(agrees.stands i caller applicant here own).1, fresh, stands⟩

/-- A user who is taken in has the next account. -/
theorem grow (agrees : crowd.Agrees applicants accounts new last)
    (here : crowd.callers[i]? = some caller) (own : applicants[i]? = some applicant)
    (unfinished : caller.progress.user? = none) {account : Account} {session : Session}
    (wants : applicant.Wants account.name account.digest)
    (normal : isUsername account.name = true)
    (taken : accept (.opened crowd.database) (accounts ++ new) account.name account.digest =
      .ok account.id)
    (stored : session.store.database =
      (accepted (.opened crowd.database) (accounts ++ new) account).database)
    (reached : (Store.opened session.store.database).Reached) :
    Crowd.Agrees ⟨session.store.database, crowd.callers.set i
        { caller with session, progress := .returned (.ok account.user) }⟩
      applicants accounts (new ++ [account]) last := by
  obtain ⟨greatest, remembers, isLast⟩ := agrees.remembers
  obtain ⟨next, above, greater, -⟩ := agrees.directory.of_accept taken
  have least := agrees.least
  have most : greatestId (accounts ++ new) ≤ last.toInt + new.length :=
    greatestId_le (by omega) agrees.among
  have counted : (Store.opened crowd.database).database.counted (usersTable []) = greatest.toInt :=
    remembers.last
  have exact : account.id.toInt = last.toInt + (new ++ [account]).length := by
    rw [List.length_append, List.length_singleton]
    omega
  obtain ⟨sequence, there⟩ := Option.isSome_iff_exists.1 remembers.sequence
  have remembered := remembers_enroll there ((accounts ++ new).map Account.row) account.row above
  refine ⟨?_, reached, ⟨account.id, ?_, exact⟩, ?_, ?_, ?_, agrees.least, ?_⟩
  · rw [stored, ← List.append_assoc]
    exact (agrees.directory.accepted taken normal).of_same rfl rfl
  · show Remembers session.store.database _
    rw [stored]
    exact remembered
  · intro other mem
    rw [← List.append_assoc] at mem
    rcases List.mem_append.1 mem with old | same
    · have less := greater other old
      omega
    · rw [List.mem_singleton.1 same]
      exact Int.le_of_eq exact
  · have one : (Progress.returned (.ok account.user)).user? = some account.user := rfl
    have grown := filterMap_set_perm (f := fun caller => caller.progress.user?)
      (b := { caller with session, progress := .returned (.ok account.user) }) here unfinished one
    rw [List.map_append, List.map_singleton]
    exact grown.trans (agrees.users.append_right _)
  · rw [List.length_set]
    exact agrees.length
  · refine forall_set (fun j other applied at_ applies => ?_) own
      ⟨(agrees.stands i caller applicant here own).1, nofun, account,
        List.mem_append_right _ (List.mem_singleton_self account), rfl, wants⟩
    obtain ⟨hasher, fresh, stands⟩ := agrees.stands j other applied at_ applies
    exact ⟨hasher, fresh, stands.mono account⟩

/-- Fewer accounts have been added than there are applicants, as long as one of them has none. -/
theorem length_lt (agrees : crowd.Agrees applicants accounts new last)
    (here : crowd.callers[i]? = some caller) (unfinished : caller.progress.user? = none) :
    new.length < applicants.length := by
  have fewer := length_filterMap_lt (f := fun caller : Caller => caller.progress.user?) here unfinished
  have same := agrees.users.length_eq
  rw [List.length_map] at same
  rw [← agrees.length, ← same]
  exact fewer

/-- The ids are used up by the applicants if there is none for another account. -/
theorem full_of_beyond (agrees : crowd.Agrees applicants accounts new last)
    (here : crowd.callers[i]? = some caller) (unfinished : caller.progress.user? = none)
    (beyond : Int64.maxValue.toInt <
      max (greatestId (accounts ++ new)) (crowd.database.counted (usersTable [])) + 1) :
    Int64.maxValue.toInt < last.toInt + applicants.length := by
  obtain ⟨greatest, remembers, isLast⟩ := agrees.remembers
  have fewer := agrees.length_lt here unfinished
  have counted := remembers.last
  have least := agrees.least
  have most : greatestId (accounts ++ new) ≤ last.toInt + new.length :=
    greatestId_le (by omega) agrees.among
  omega

/-- Whoever has begun and asks for a name finds it taken or free. -/
theorem turn_begun (agrees : crowd.Agrees applicants accounts new last)
    (here : crowd.callers[i]? = some caller) (own : applicants[i]? = some applicant)
    (begun : caller.progress = .begun applicant.name applicant.password) :
    (crowd.turn i).Agrees applicants accounts new last := by
  obtain ⟨-, fresh, -⟩ := agrees.stands i caller applicant here own
  rw [begun] at fresh
  have seen := (fresh rfl).seeing crowd.database
  have unfinished : caller.progress.user? = none := by rw [begun]; rfl
  cases found : Accounts.candidate applicant.name applicant.password with
  | error f =>
    have stepped : caller.progress.step caller.hasher (caller.session.seeing crowd.database) =
        (.returned (.error f), caller.session.seeing crowd.database) := by
      rw [begun, Progress.step_begun, found]
    rw [turn_of_step here stepped]
    refine agrees.stay here own rfl unfinished.symm (by exact nofun) ?_
    rintro name digest ⟨secret, known, -⟩
    rw [found] at known
    cases known
  | ok given =>
    obtain ⟨name, secret⟩ := given
    have has : (caller.session.seeing crowd.database).store.database.HasUsers
        ((accounts ++ new).map Account.row) := agrees.directory.has
    have asked := outcome_isTaken has (of_candidate found).2.1
    cases taken : (accounts ++ new).any fun account => account.name == name with
    | true =>
      have stepped : caller.progress.step caller.hasher (caller.session.seeing crowd.database) =
          (.returned (.error (.userExists name)),
            (caller.session.seeing crowd.database).afterAsking ⟨takenText, [.text name]⟩) := by
        rw [begun, Progress.step_begun, found]
        simp only [asked, taken]
      rw [turn_of_step here stepped]
      refine agrees.stay here own rfl unfinished.symm (by exact nofun) fun other digest wants => .inl ?_
      obtain ⟨rfl, -⟩ := wants.of_candidate found
      obtain ⟨account, mem, same⟩ := List.any_eq_true.1 taken
      exact ⟨rfl, account, mem, by simpa using same⟩
    | false =>
      have stepped : caller.progress.step caller.hasher (caller.session.seeing crowd.database) =
          (.free name secret,
            (caller.session.seeing crowd.database).afterAsking ⟨takenText, [.text name]⟩) := by
        rw [begun, Progress.step_begun, found]
        simp only [asked, taken]
      rw [turn_of_step here stepped]
      exact agrees.stay here own rfl unfinished.symm (fun _ => ⟨_, seen⟩) found

/-- Whoever has found the name free hashes the password. -/
theorem turn_free (agrees : crowd.Agrees applicants accounts new last)
    (here : crowd.callers[i]? = some caller) (own : applicants[i]? = some applicant)
    {name secret : String} (free : caller.progress = .free name secret) :
    (crowd.turn i).Agrees applicants accounts new last := by
  obtain ⟨hasher, fresh, found⟩ := agrees.stands i caller applicant here own
  rw [free] at fresh found
  have seen := (fresh rfl).seeing crowd.database
  have unfinished : caller.progress.user? = none := by rw [free]; rfl
  cases hashed : applicant.hasher.hash secret with
  | error message =>
    have stepped : caller.progress.step caller.hasher (caller.session.seeing crowd.database) =
        (.returned (.error (.credential message)), caller.session.seeing crowd.database) := by
      rw [free, hasher, Progress.step_free, hashed]
    rw [turn_of_step here stepped]
    refine agrees.stay here own rfl unfinished.symm (by exact nofun) fun other digest wants => ?_
    obtain ⟨rfl, made⟩ := wants.of_candidate found
    rw [hashed] at made
    cases made
  | ok digest =>
    have stepped : caller.progress.step caller.hasher (caller.session.seeing crowd.database) =
        (.hashed name digest, caller.session.seeing crowd.database) := by
      rw [free, hasher, Progress.step_free, hashed]
    rw [turn_of_step here stepped]
    exact agrees.stay here own rfl unfinished.symm (fun _ => ⟨_, seen⟩) ⟨secret, found, hashed⟩

/-- Whoever has a digest is taken in, or told that the name is taken, or no id is left. -/
theorem turn_hashed (agrees : crowd.Agrees applicants accounts new last)
    (here : crowd.callers[i]? = some caller) (own : applicants[i]? = some applicant)
    {name digest : String} (hashed : caller.progress = .hashed name digest) :
    ∃ more, (crowd.turn i).Agrees applicants accounts (new ++ more) last := by
  obtain ⟨hasher, fresh, wants⟩ := agrees.stands i caller applicant here own
  rw [hashed] at fresh wants
  have seen := (fresh rfl).seeing crowd.database
  have unfinished : caller.progress.user? = none := by rw [hashed]; rfl
  have wants : applicant.Wants name digest := wants
  obtain ⟨secret, found, -⟩ := id wants
  have directory : Directory (caller.session.seeing crowd.database).store (accounts ++ new) := by
    rw [seen]
    exact agrees.directory
  have reaches := (Reaches.enroll name digest).reached (caller.session.seeing crowd.database)
    (by rw [seen]; exact agrees.reached)
  have enrolled := outcome_enroll name digest directory.has directory.increasing directory.outside
  cases taken : accept (.opened crowd.database) (accounts ++ new) name digest with
  | ok id =>
    rw [seen, taken] at enrolled
    have stepped : caller.progress.step caller.hasher (caller.session.seeing crowd.database) =
        (.returned (.ok ⟨some id, name, digest⟩),
          (caller.session.seeing crowd.database).afterAccepting (accounts ++ new) ⟨id, name, digest⟩) := by
      rw [hashed, Progress.step_hashed, enrolled]
    rw [enrolled] at reaches
    rw [turn_of_step here stepped]
    have stored : ((caller.session.seeing crowd.database).afterAccepting (accounts ++ new)
        ⟨id, name, digest⟩).store.database =
          (accepted (.opened crowd.database) (accounts ++ new) ⟨id, name, digest⟩).database := by
      rw [Session.afterAccepting, seen]
    let account : Account := ⟨id, name, digest⟩
    have wants : applicant.Wants account.name account.digest := wants
    exact ⟨[account], agrees.grow here own unfinished wants (of_candidate found).2.1 taken stored
      (.reopened reaches (.inl rfl))⟩
  | error problem =>
    rw [seen, taken] at enrolled
    have stepped : caller.progress.step caller.hasher (caller.session.seeing crowd.database) =
        (.returned (.error (if problem.isRepeated then .userExists name
            else .storage (.statement (problem.bare.seenIn enrollText)))),
          (caller.session.seeing crowd.database).afterFailing
            ⟨enrollText, [.text name, .text digest]⟩) := by
      rw [hashed, Progress.step_hashed, enrolled]
    rw [turn_of_step here stepped]
    refine ⟨[], ?_⟩
    rw [List.append_nil]
    refine agrees.stay here own rfl unfinished.symm (by exact nofun) fun other wanted wants => ?_
    obtain ⟨rfl, -⟩ := wants.of_candidate found
    rcases of_accept_error agrees.reached.sound.database agrees.directory taken with
      ⟨repeated, account, mem, same⟩ | beyond
    · rw [if_pos repeated]
      exact .inl ⟨rfl, account, mem, same⟩
    · exact .inr (agrees.full_of_beyond here unfinished beyond)

/-- Every step keeps what is kept, and may add an account. -/
theorem turn (agrees : crowd.Agrees applicants accounts new last) (i : Nat) :
    ∃ more, (crowd.turn i).Agrees applicants accounts (new ++ more) last := by
  have kept {after : Crowd} (agrees : after.Agrees applicants accounts new last) :
      ∃ more, after.Agrees applicants accounts (new ++ more) last :=
    ⟨[], by rwa [List.append_nil]⟩
  cases here : crowd.callers[i]? with
  | none =>
    have still : crowd.turn i = crowd := by simp only [Crowd.turn, here]
    rw [still]
    exact kept agrees
  | some caller =>
    obtain ⟨applicant, own⟩ : ∃ applicant, applicants[i]? = some applicant := by
      obtain ⟨within, -⟩ := List.getElem?_eq_some_iff.1 here
      exact ⟨_, List.getElem?_eq_getElem (agrees.length ▸ within)⟩
    obtain ⟨-, -, stands⟩ := agrees.stands i caller applicant here own
    cases progress : caller.progress with
    | begun name password =>
      rw [progress] at stands
      obtain ⟨rfl, rfl⟩ := stands
      exact kept (agrees.turn_begun here own progress)
    | free name secret => exact kept (agrees.turn_free here own progress)
    | hashed name digest => exact agrees.turn_hashed here own progress
    | returned result =>
      have stepped : caller.progress.step caller.hasher (caller.session.seeing crowd.database) =
          (.returned result, caller.session.seeing crowd.database) := by
        rw [progress, Progress.step_returned]
      rw [turn_of_step here stepped]
      refine kept (agrees.stay here own rfl ?_ (by exact nofun) (progress ▸ stands))
      rw [progress]

/-- Whatever the order of the steps, they keep what is kept. -/
theorem run (turns : List Nat) {crowd : Crowd} {new : List Account}
    (agrees : crowd.Agrees applicants accounts new last) :
    ∃ more, (crowd.run turns).Agrees applicants accounts (new ++ more) last := by
  induction turns generalizing crowd new with
  | nil => exact ⟨[], by rwa [List.append_nil]⟩
  | cons i turns ih =>
    obtain ⟨first, agrees⟩ := agrees.turn i
    obtain ⟨others, agrees⟩ := ih agrees
    exact ⟨first ++ others, by rwa [← List.append_assoc]⟩

end Agrees

end Crowd

end Registrar
