import Registrar.Proofs.Accounts.Rivalry

/-!
# What registrations side by side come to

From what every step keeps follows what callers see, whatever the order of their steps: for each name one
of those who want it is registered, unless it was taken before, and all others are told that the user
exists; the store has one row more for each who has been registered.  Nobody has to wait for others:
three steps of one's own are enough.
-/

namespace Registrar

open Registrar.Text Registrar.Sql Registrar.Sql.Database Call

/-- Those who have registered a user have returned that user. -/
theorem Progress.user?_eq_some {progress : Progress} {user : User} :
    progress.user? = some user ↔ progress = .returned (.ok user) := by
  constructor
  · intro registered
    match progress, registered with
    | .returned (.ok _), registered => rw [Option.some.inj registered]
  · rintro rfl
    rfl

/-- Users that are told apart by their names and by their ids. -/
def User.Differs (user other : User) : Prop :=
  user.name ≠ other.name ∧ user.id ≠ other.id

/-- Being told apart goes both ways. -/
theorem User.Differs.symm {user other : User} (differs : user.Differs other) : other.Differs user :=
  ⟨differs.1.symm, differs.2.symm⟩

/-- The row of an account tells the account. -/
theorem Account.row_injective : Function.Injective Account.row := by
  rintro ⟨id, name, digest⟩ ⟨id', name', digest'⟩ same
  simp only [Account.row, userRow, Sql.Row.mk.injEq, List.cons.injEq, Cell.text.injEq] at same
  obtain ⟨rfl, -, rfl, rfl, -⟩ := same
  rfl

/-- A store has its accounts and no others. -/
theorem Sql.Database.HasUsers.accounts_unique {db : Database} {accounts others : List Account}
    (has : db.HasUsers (accounts.map Account.row)) (has' : db.HasUsers (others.map Account.row)) :
    accounts = others := by
  have same := Option.some.inj (has.table?.symm.trans has'.table?)
  exact List.map_injective_iff.2 Account.row_injective (congrArg Sql.Table.rows same)

/-- The accounts of a store are told apart. -/
theorem Directory.differ {store : Store} {accounts : List Account} (directory : Directory store accounts) :
    accounts.Pairwise fun account other => account.user.Differs other.user := by
  refine (List.pairwise_map.1 directory.distinct).and directory.increasing |>.imp ?_
  rintro account other ⟨named, before⟩
  refine ⟨named, fun same => ?_⟩
  rw [Option.some.inj same] at before
  exact Int.lt_irrefl _ before

namespace Crowd

section Liveness

variable {crowd : Crowd} {caller : Caller}

/-- A step of a caller brings this caller nearer to the end, and leaves all others where they are. -/
theorem left_turn {i j : Nat} (here : (crowd.turn j).callers[i]? = some caller) :
    ∃ before, crowd.callers[i]? = some before ∧
      caller.progress.left ≤ before.progress.left - [j].count i := by
  cases found : crowd.callers[j]? with
  | none =>
    have still : crowd.turn j = crowd := by simp only [turn, found]
    rw [still] at here
    refine ⟨caller, here, ?_⟩
    have other : j ≠ i := by
      rintro rfl
      rw [found] at here
      cases here
    rw [List.count_singleton, beq_eq_false_iff_ne.2 other]
    exact Nat.le_refl _
  | some mover =>
    rw [turn_of_step found rfl, List.getElem?_set] at here
    split at here
    · next place =>
      subst place
      split at here
      · refine ⟨mover, found, ?_⟩
        rw [← Option.some.inj here, List.count_singleton_self]
        exact Progress.left_step mover.hasher mover.progress _
      · cases here
    · next other =>
      refine ⟨caller, here, ?_⟩
      rw [List.count_singleton, beq_eq_false_iff_ne.2 other]
      exact Nat.le_refl _

/-- Every caller comes as much nearer to the end as steps are taken by this caller. -/
theorem left_run (turns : List Nat) {crowd : Crowd} {i : Nat}
    (here : (crowd.run turns).callers[i]? = some caller) :
    ∃ before, crowd.callers[i]? = some before ∧
      caller.progress.left ≤ before.progress.left - turns.count i := by
  induction turns generalizing crowd with
  | nil => exact ⟨caller, here, Nat.le_refl _⟩
  | cons j turns ih =>
    obtain ⟨between, there, nearer⟩ := ih here
    obtain ⟨before, first, near⟩ := left_turn there
    refine ⟨before, first, ?_⟩
    have both : ([j] ++ turns).count i = [j].count i + turns.count i := List.count_append
    rw [List.singleton_append] at both
    omega

end Liveness

/-- What registrations come to in a store of some accounts, where a certain id was the last to be given:
those who are registered get names and ids of their own and a row each, and those who are not, although
their name and password are fit, are told that the user exists, unless the ids are used up. -/
structure Fair (crowd : Crowd) (applicants : List Applicant) (accounts : List Account) (last : Int64) :
    Prop where
  /-- The store has the rows it had, and one for each who has been registered. -/
  rows : ∃ new : List Account, crowd.database.HasUsers ((accounts ++ new).map Account.row) ∧
    crowd.users.Perm (new.map Account.user)
  /-- Whoever is registered has what was wanted, and no name or id of an account that there was. -/
  registered : ∀ i user, crowd.Returns i (.ok user) → ∃ applicant, applicants[i]? = some applicant ∧
    applicant.Wants user.name user.digest ∧ user.id.isSome ∧
    ∀ account ∈ accounts, account.user.Differs user
  /-- No name and no id is given twice. -/
  apart : ∀ i j user other, i ≠ j → crowd.Returns i (.ok user) → crowd.Returns j (.ok other) →
    user.Differs other
  /-- Whoever comes too late is told so. -/
  refused : last.toInt + applicants.length ≤ Int64.maxValue.toInt → ∀ i applicant name digest f,
    applicants[i]? = some applicant → applicant.Wants name digest → crowd.Returns i (.error f) →
      f = .userExists name ∧ f.kind = .duplicate
  /-- A free name is given to one of those who want it. -/
  won : last.toInt + applicants.length ≤ Int64.maxValue.toInt → ∀ i applicant name digest result,
    applicants[i]? = some applicant → applicant.Wants name digest →
      (∀ account ∈ accounts, account.name ≠ name) → crowd.Returns i result →
        ∃ j user, crowd.Returns j (.ok user) ∧ user.name = name
  /-- Whoever is alone in wanting a free name is registered. -/
  alone : last.toInt + applicants.length ≤ Int64.maxValue.toInt → ∀ i applicant name digest result,
    applicants[i]? = some applicant → applicant.Wants name digest →
      (∀ account ∈ accounts, account.name ≠ name) →
      (∀ (j : Nat) (other : Applicant) (secret : String), applicants[j]? = some other →
        other.Wants name secret → j = i) →
      crowd.Returns i result → ∃ user, result = .ok user

/-- All rivals of whoever is registered are told that the user exists. -/
theorem Fair.eq_userExists {crowd : Crowd} {applicants : List Applicant} {accounts : List Account}
    {last : Int64} (fair : crowd.Fair applicants accounts last)
    (enough : last.toInt + applicants.length ≤ Int64.maxValue.toInt) {i j : Nat} (places : i ≠ j) {user : User}
    (won : crowd.Returns j (.ok user)) {applicant : Applicant} {digest : String}
    {result : Except Failure User} (own : applicants[i]? = some applicant)
    (wants : applicant.Wants user.name digest) (returns : crowd.Returns i result) :
    result = .error (.userExists user.name) := by
  cases result with
  | error f => rw [(fair.refused enough i applicant _ digest f own wants returns).1]
  | ok other =>
    obtain ⟨same, known, ⟨secret, found, -⟩, -⟩ := fair.registered i other returns
    obtain rfl := Option.some.inj (own.symm.trans known)
    exact absurd (wants.of_candidate found).1.symm (fair.apart i j other user places returns won).1

namespace Agrees

variable {crowd : Crowd} {applicants : List Applicant} {accounts new : List Account} {last : Int64}

/-- Before the first step the store has the accounts that it had. -/
theorem opened {history : History} {given : List Account} (agrees : history.Agrees accounts given last)
    (least : 0 ≤ last.toInt) (applicants : List Applicant) :
    (Crowd.opened history.session.store.database applicants).Agrees applicants accounts [] last := by
  have none : ∀ others : List Applicant,
      (others.map (Caller.opened history.session.store.database)).filterMap
        (fun caller => caller.progress.user?) = [] := by
    intro others
    rw [List.filterMap_map, List.filterMap_eq_nil_iff]
    exact fun _ _ => rfl
  refine ⟨?_, .reopened agrees.reached (.inl rfl), ⟨last, agrees.remembers, ?_⟩, ?_, ?_, ?_, least, ?_⟩
  · rw [List.append_nil]
    exact agrees.directory.of_same rfl agrees.directory.outside.symm
  · exact (Int.add_zero _).symm
  · rw [List.append_nil]
    intro account mem
    have below := agrees.among account mem
    rwa [List.length_nil, Int.natCast_zero, Int.add_zero]
  · exact List.Perm.of_eq (none applicants)
  · exact List.length_map _
  · intro i caller applicant here own
    rw [Crowd.opened, List.getElem?_map, own] at here
    obtain rfl := Option.some.inj here
    exact ⟨rfl, fun _ => ⟨_, rfl⟩, rfl, rfl⟩

/-- Whoever has been registered has one of the new accounts. -/
theorem of_returns_ok (agrees : crowd.Agrees applicants accounts new last) {i : Nat} {user : User}
    (returns : crowd.Returns i (.ok user)) :
    ∃ applicant, applicants[i]? = some applicant ∧ ∃ account ∈ new, user = account.user ∧
      applicant.Wants account.name account.digest := by
  obtain ⟨caller, here, progress⟩ := returns
  obtain ⟨within, -⟩ := List.getElem?_eq_some_iff.1 here
  have own := List.getElem?_eq_getElem (agrees.length ▸ within)
  obtain ⟨-, -, stands⟩ := agrees.stands i caller _ here own
  rw [progress] at stands
  exact ⟨_, own, stands⟩

/-- Whoever has not been registered, although fit, was told that the user exists, and there is one. -/
theorem of_returns_error (agrees : crowd.Agrees applicants accounts new last)
    (enough : last.toInt + applicants.length ≤ Int64.maxValue.toInt) {i : Nat} {applicant : Applicant}
    {name digest : String} {f : Failure} (own : applicants[i]? = some applicant)
    (wants : applicant.Wants name digest) (returns : crowd.Returns i (.error f)) :
    f = .userExists name ∧ ∃ account ∈ accounts ++ new, account.name = name := by
  obtain ⟨caller, here, progress⟩ := returns
  obtain ⟨-, -, stands⟩ := agrees.stands i caller applicant here own
  rw [progress] at stands
  rcases stands name digest wants with refused | full
  · exact refused
  · omega

/-- Every new account is that of a caller who has been registered. -/
theorem returns_of_mem (agrees : crowd.Agrees applicants accounts new last) {account : Account}
    (mem : account ∈ new) : ∃ j, crowd.Returns j (.ok account.user) := by
  have among : account.user ∈ crowd.users := agrees.users.mem_iff.2 (List.mem_map_of_mem mem)
  obtain ⟨caller, present, user⟩ := List.mem_filterMap.1 among
  obtain ⟨j, here⟩ := List.getElem?_of_mem present
  exact ⟨j, caller, here, Progress.user?_eq_some.1 user⟩

/-- A name that was free is had by one of the callers if somebody has it. -/
theorem won_of_taken (agrees : crowd.Agrees applicants accounts new last) {name : String}
    (free : ∀ account ∈ accounts, account.name ≠ name)
    (taken : ∃ account ∈ accounts ++ new, account.name = name) :
    ∃ j user, crowd.Returns j (.ok user) ∧ user.name = name := by
  obtain ⟨account, mem, named⟩ := taken
  rcases List.mem_append.1 mem with old | fresh
  · exact absurd named (free account old)
  · obtain ⟨j, returns⟩ := agrees.returns_of_mem fresh
    exact ⟨j, account.user, returns, named⟩

/-- Different callers have been registered with different names and ids. -/
theorem differs (agrees : crowd.Agrees applicants accounts new last) {i j : Nat} {user other : User}
    (places : i ≠ j) (first : crowd.Returns i (.ok user)) (second : crowd.Returns j (.ok other)) :
    user.Differs other := by
  have differ : crowd.users.Pairwise User.Differs := by
    refine (agrees.users.pairwise_iff fun {_ _} => User.Differs.symm).2 (List.pairwise_map.2 ?_)
    exact (List.pairwise_append.1 agrees.directory.differ).2.1
  -- of two places one is before the other
  have ordered {i j : Nat} {user other : User} (before : i < j)
      (first : crowd.Returns i (.ok user)) (second : crowd.Returns j (.ok other)) :
      user.Differs other := by
    obtain ⟨caller, here, progress⟩ := first
    obtain ⟨rival, there, progress'⟩ := second
    obtain ⟨within, rfl⟩ := List.getElem?_eq_some_iff.1 here
    obtain ⟨within', rfl⟩ := List.getElem?_eq_some_iff.1 there
    exact List.pairwise_iff_getElem.1 (List.pairwise_filterMap.1 differ) i j within within' before
      user (Progress.user?_eq_some.2 progress) other (Progress.user?_eq_some.2 progress')
  rcases Nat.lt_or_gt_of_ne places with before | after
  · exact ordered before first second
  · exact (ordered after second first).symm

/-- What is kept by every step is fair. -/
theorem fair (agrees : crowd.Agrees applicants accounts new last) :
    crowd.Fair applicants accounts last where
  rows := ⟨new, agrees.directory.has, agrees.users⟩
  registered := by
    intro i user returns
    obtain ⟨applicant, own, account, mem, rfl, wants⟩ := agrees.of_returns_ok returns
    refine ⟨applicant, own, wants, rfl, fun other old => ?_⟩
    exact (List.pairwise_append.1 agrees.directory.differ).2.2 other old account mem
  apart := fun _ _ _ _ places first second => agrees.differs places first second
  refused := by
    intro enough i applicant name digest f own wants returns
    obtain ⟨rfl, -⟩ := agrees.of_returns_error enough own wants returns
    exact ⟨rfl, rfl⟩
  won := by
    intro enough i applicant name digest result own wants free returns
    cases result with
    | error f =>
      exact agrees.won_of_taken free (agrees.of_returns_error enough own wants returns).2
    | ok user =>
      refine ⟨i, user, returns, ?_⟩
      obtain ⟨same, known, account, -, rfl, ⟨secret, found, -⟩⟩ := agrees.of_returns_ok returns
      obtain rfl := Option.some.inj (own.symm.trans known)
      exact (wants.of_candidate found).1.symm
  alone := by
    intro enough i applicant name digest result own wants free sole returns
    cases result with
    | ok user => exact ⟨user, rfl⟩
    | error f =>
      obtain ⟨j, user, won, named⟩ :=
        agrees.won_of_taken free (agrees.of_returns_error enough own wants returns).2
      obtain ⟨winner, there, account, -, rfl, same⟩ := agrees.of_returns_ok won
      obtain rfl : account.name = name := named
      obtain rfl := sole j winner account.digest there same
      obtain ⟨caller, here, progress⟩ := won
      obtain ⟨caller', here', progress'⟩ := returns
      obtain rfl := Option.some.inj (here.symm.trans here')
      cases progress.symm.trans progress'

/-- Whoever has taken three steps has returned. -/
theorem returns {db : Database} {turns : List Nat}
    (agrees : ((Crowd.opened db applicants).run turns).Agrees applicants accounts new last) {i : Nat}
    (within : i < applicants.length) (often : 3 ≤ turns.count i) :
    ∃ result, ((Crowd.opened db applicants).run turns).Returns i result := by
  obtain ⟨caller, here⟩ : ∃ caller, ((Crowd.opened db applicants).run turns).callers[i]? = some caller :=
    ⟨_, List.getElem?_eq_getElem (agrees.length.symm ▸ within)⟩
  obtain ⟨before, began, left⟩ := left_run turns here
  rw [Crowd.opened, List.getElem?_map, List.getElem?_eq_getElem within] at began
  obtain rfl := Option.some.inj began
  have most : (Caller.opened db applicants[i]).progress.left = 3 := rfl
  have none : caller.progress.left = 0 := by omega
  obtain ⟨result, ended⟩ := Progress.returned_of_left none
  exact ⟨result, caller, here, ended⟩

end Agrees

end Crowd

/-- From a store that has been initialized on, whatever users have registered and have been removed since:
any applicants, each on a connection of their own, ask whether the name is taken, hash the password and
insert the user, in any order of all these steps.  At any time no two of them are registered with one name
or one id; whoever is refused although name and password are fit is told that the user exists; whoever is
alone in wanting a free name is registered; and the store has the rows that it had and those of the
registered.  Whoever has taken three steps has returned. -/
theorem registrations_side_by_side {hasher : Hasher} {password : String} {session start : Session}
    (reached : session.store.Reached)
    (initialized : (Bootstrap.run hasher password).outcome session = (.ok (), start)) :
    ∃ admin : Account, admin.name = Bootstrap.administrator ∧ Directory start.store [admin] ∧
      ∀ deeds, let now := (History.mk start [] [admin.user]).run hasher deeds
      ∃ (accounts : List Account) (last : Int64),
        now.session.store.database.HasUsers (accounts.map Account.row) ∧
        last.toInt = admin.id.toInt + now.registered.length ∧
        ∀ applicants turns,
          let crowd := (Crowd.opened now.session.store.database applicants).run turns
          crowd.Fair applicants accounts last ∧
          ∀ i, i < applicants.length → 3 ≤ turns.count i → ∃ result, crowd.Returns i result := by
  obtain ⟨admin, named, agrees⟩ := History.agrees_of_run reached initialized
  have least : 0 ≤ admin.id.toInt := by
    obtain ⟨id, digest, -, remembers, positive⟩ := remembers_of_run reached.sound initialized
    have same := agrees.remembers.last.symm.trans remembers.last
    omega
  refine ⟨admin, named, agrees.directory, fun deeds => ?_⟩
  obtain ⟨accounts, given, last, now, registered, numbered⟩ := agrees.run hasher deeds
  have counted := (numbered least).toInt_last
  refine ⟨accounts, last, now.directory.has, ?_, fun applicants turns => ?_⟩
  · rw [counted, registered, List.nil_append, List.length_map]
  obtain ⟨new, later⟩ := (Crowd.Agrees.opened now (by omega) applicants).run turns
  exact ⟨later.fair, fun i within often => later.returns within often⟩

/-- Of two who want a free name, one is registered and the other is told that the user exists. -/
theorem Crowd.Fair.of_two {crowd : Crowd} {one two : Applicant} {accounts : List Account} {last : Int64}
    (fair : crowd.Fair [one, two] accounts last) (enough : last.toInt + [one, two].length ≤ Int64.maxValue.toInt)
    {name digest digest' : String} {result result' : Except Failure User}
    (free : ∀ account ∈ accounts, account.name ≠ name)
    (first : one.Wants name digest) (second : two.Wants name digest')
    (returns : crowd.Returns 0 result) (returns' : crowd.Returns 1 result') :
    ∃ i j user, crowd.Returns i (.ok user) ∧ user.name = name ∧ i ≠ j ∧
      crowd.Returns j (.error (.userExists name)) := by
  obtain ⟨j, user, won, rfl⟩ := fair.won enough 0 one name digest result rfl first free returns
  obtain ⟨applicant, own, -⟩ := fair.registered j user won
  have within : j < 2 := (List.getElem?_eq_some_iff.1 own).1
  obtain rfl | rfl : j = 0 ∨ j = 1 := by omega
  · obtain rfl := fair.eq_userExists enough Nat.one_ne_zero won rfl second returns'
    exact ⟨0, 1, user, won, rfl, Nat.zero_ne_one, returns'⟩
  · obtain rfl := fair.eq_userExists enough Nat.zero_ne_one won rfl first returns
    exact ⟨1, 0, user, won, rfl, Nat.one_ne_zero, returns⟩

/-- Two who want one name at once are told who was first. -/
theorem registrations_side_by_side_worf :
    ∃ start, (Bootstrap.run marker "secret").outcome ⟨.opened .empty, []⟩ = (.ok (), start) ∧
      let crowd := (Crowd.opened start.store.database
        [⟨marker, " Worf ", "honor"⟩, ⟨marker, "worf", "mogh"⟩]).run [0, 1, 0, 1, 1, 0]
      ∃ i j user, crowd.Returns i (.ok user) ∧ user.name = "worf" ∧ i ≠ j ∧
        crowd.Returns j (.error (.userExists "worf")) := by
  obtain ⟨log, initialized⟩ := outcome_run_opened
  obtain ⟨admin, -, directory, always⟩ := registrations_side_by_side .opened initialized
  obtain rfl : admin = administratorAccount :=
    List.singleton_inj.1 (directory.has.accounts_unique directory_initializedStore.has)
  obtain ⟨accounts, last, has, isLast, now⟩ := always []
  obtain rfl : accounts = [administratorAccount] :=
    has.accounts_unique directory_initializedStore.has
  refine ⟨_, initialized, ?_⟩
  obtain ⟨fair, ends⟩ := now [⟨marker, " Worf ", "honor"⟩, ⟨marker, "worf", "mogh"⟩] [0, 1, 0, 1, 1, 0]
  obtain ⟨result, returns⟩ := ends 0 (by decide) (by decide)
  obtain ⟨result', returns'⟩ := ends 1 (by decide) (by decide)
  refine fair.of_two ?_ (by decide) ⟨"honor", rfl, rfl⟩ ⟨"mogh", rfl, rfl⟩ returns returns'
  rw [isLast]
  exact (by decide : (1 : Int) + 0 + 2 ≤ Int64.maxValue.toInt)

end Registrar
