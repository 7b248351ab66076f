import Registrar.Proofs.Accounts.Directory
import Registrar.Proofs.Sql.Soundness

/-!
# Registration and login agree

Requests about accounts are served one after another, failing ones included.  All but registrations
leave the store as it is, and a registration that succeeds adds one account at the end of the
directory; so every account that was once registered stays, and whoever registered it logs in.
-/

namespace Registrar

open Registrar.Text Registrar.Sql Call

/-- What a caller asks about accounts. -/
inductive Request where
  | register (name password : String)
  | authenticate (name password : String)
  | userById (id : Int64)
  | userByName (name : String)
  | usernameExists (name : String)
  | usernames

/-- The session after a request, whatever it came to. -/
def Request.serve (hasher : Hasher) (session : Session) : Request → Session
  | .register name password => ((Accounts.register hasher name password).outcome session).2
  | .authenticate name password => ((Accounts.authenticate hasher name password).outcome session).2
  | .userById id => ((Accounts.userById id).outcome session).2
  | .userByName name => ((Accounts.userByName name).outcome session).2
  | .usernameExists name => ((Accounts.usernameExists name).outcome session).2
  | .usernames => (Accounts.usernames.outcome session).2

/-- The session after some requests. -/
def serveAll (hasher : Hasher) (session : Session) (requests : List Request) : Session :=
  requests.foldl (Request.serve hasher) session

/-- The first of some requests is served first. -/
theorem serveAll_cons (hasher : Hasher) (session : Session) (request : Request)
    (requests : List Request) :
    serveAll hasher session (request :: requests) =
      serveAll hasher (request.serve hasher session) requests :=
  List.foldl_cons

/-- What follows some requests is served behind them. -/
theorem serveAll_append (hasher : Hasher) (session : Session) (before later : List Request) :
    serveAll hasher session (before ++ later) =
      serveAll hasher (serveAll hasher session before) later :=
  List.foldl_append

/-- One of some requests has registered a user, by a name and a password. -/
def Registers (hasher : Hasher) (session : Session) (requests : List Request)
    (given password : String) (user : User) : Prop :=
  ∃ before later, requests = before ++ .register given password :: later ∧
    ((Accounts.register hasher given password).outcome (serveAll hasher session before)).1 = .ok user

namespace Directory

variable {hasher : Hasher} {session : Session} {accounts : List Account} {account : Account}
  {given name : String}

/-- The user of a name is who has the normal form of it. -/
theorem outcome_userByName (directory : Directory session.store accounts)
    (normal : normalizeUsername given = .ok name) :
    (Accounts.userByName given).outcome session =
      (match accounts.find? fun account => account.name == name with
        | some account => .ok account.user
        | none => .error (.noUser name), session.afterAsking ⟨nameText, [.text name]⟩) := by
  have lifted : (Call.lift (normalizeUsername given)).outcome session = (.ok name, session) := by
    rw [normal, outcome_lift]
  have valid := isUsername_of_normalize normal
  rw [Accounts.userByName, outcome_bind_of_ok lifted]
  exact outcome_userOfNormal (statement_questionForName valid) directory.has

/-- What is no name is refused before the store is asked. -/
theorem outcome_userByName_of_refused {f : Failure} (refused : normalizeUsername given = .error f) :
    (Accounts.userByName given).outcome session = (.error f, session) := by
  rw [Accounts.userByName, refused]
  exact outcome_bind_of_error (outcome_lift _ _)

/-- Asking for the user of a name leaves the store as it is. -/
theorem store_userByName (directory : Directory session.store accounts) (given : String) :
    ((Accounts.userByName given).outcome session).2.store = session.store := by
  cases normal : normalizeUsername given with
  | error f => rw [outcome_userByName_of_refused normal]
  | ok name =>
    rw [directory.outcome_userByName normal]
    rfl

/-- Logging in leaves the store as it is. -/
theorem store_authenticate (directory : Directory session.store accounts) (given password : String) :
    ((Accounts.authenticate hasher given password).outcome session).2.store = session.store := by
  cases normal : normalizeUsername given with
  | error f =>
    rw [Accounts.authenticate, outcome_bind_of_error (outcome_userByName_of_refused normal)]
  | ok name =>
    have built := statement_questionForName (isUsername_of_normalize normal)
    rw [outcome_authenticate normal built directory.has]
    rfl

/-- Asking whether a name is taken leaves the store as it is. -/
theorem store_usernameExists (directory : Directory session.store accounts) (given : String) :
    ((Accounts.usernameExists given).outcome session).2.store = session.store := by
  cases normal : normalizeUsername given with
  | error f =>
    rw [Accounts.usernameExists, normal, outcome_bind_of_error (outcome_lift _ _)]
  | ok name =>
    have valid := isUsername_of_normalize normal
    rw [Accounts.usernameExists, normal, outcome_bind_of_ok (outcome_lift _ _),
      outcome_isTaken directory.has valid]
    rfl

/-- A request leaves the store as it is, or it has registered an account. -/
theorem serve_cases (directory : Directory session.store accounts) (hasher : Hasher)
    (request : Request) :
    (request.serve hasher session).store = session.store ∨
    ∃ given password account, request = .register given password ∧
      ((Accounts.register hasher given password).outcome session).1 = .ok account.user ∧
      normalizeUsername given = .ok account.name ∧
      Directory (request.serve hasher session).store (accounts ++ [account]) := by
  cases request with
  | register given password =>
    rcases directory.register_cases hasher given password with ⟨f, after, failed, same⟩ |
      ⟨account, after, done, normal, -, taken, stored⟩
    · left
      rw [Request.serve, failed]
      exact same
    · right
      refine ⟨given, password, account, rfl, ?_, normal, ?_⟩
      · rw [done]
      · rw [Request.serve, done, stored]
        exact directory.accepted taken (isUsername_of_normalize normal)
  | authenticate given password =>
    left
    rw [Request.serve, directory.store_authenticate]
  | userById id =>
    left
    rw [Request.serve, outcome_userById directory.has]
    rfl
  | userByName given =>
    left
    rw [Request.serve, directory.store_userByName]
  | usernameExists given =>
    left
    rw [Request.serve, directory.store_usernameExists]
  | usernames =>
    left
    rw [Request.serve, outcome_usernames directory.has directory.increasing]
    rfl

/-- Some requests keep the accounts that are there, and the accounts behind them are those that the
requests have registered. -/
theorem serveAll (hasher : Hasher) (requests : List Request) {session : Session}
    {accounts : List Account} (directory : Directory session.store accounts) :
    ∃ more, Directory (Registrar.serveAll hasher session requests).store (accounts ++ more) ∧
      ∀ account ∈ more, ∃ given password,
        Registers hasher session requests given password account.user ∧
          normalizeUsername given = .ok account.name := by
  induction requests generalizing session accounts with
  | nil =>
    refine ⟨[], ?_, nofun⟩
    rw [List.append_nil]
    exact directory
  | cons request requests ih =>
    -- what is registered later is registered by a later request
    have later {given password : String} {user : User}
        (registers : Registers hasher (request.serve hasher session) requests given password user) :
        Registers hasher session (request :: requests) given password user := by
      obtain ⟨before, rest, parts, done⟩ := registers
      rw [← serveAll_cons] at done
      exact ⟨request :: before, rest, congrArg (request :: ·) parts, done⟩
    rw [serveAll_cons]
    rcases directory.serve_cases hasher request with same |
      ⟨given, password, account, rfl, done, normal, grown⟩
    · have kept : Directory (request.serve hasher session).store accounts := by
        rw [same]
        exact directory
      obtain ⟨more, directory, registered⟩ := ih kept
      refine ⟨more, directory, fun account mem => ?_⟩
      obtain ⟨given, password, registers, normal⟩ := registered account mem
      exact ⟨given, password, later registers, normal⟩
    · obtain ⟨more, directory, registered⟩ := ih grown
      refine ⟨account :: more, ?_, fun other mem => ?_⟩
      · rw [List.append_assoc] at directory
        exact directory
      · rcases List.mem_cons.1 mem with rfl | mem
        · exact ⟨given, password, ⟨[], requests, rfl, done⟩, normal⟩
        · obtain ⟨given, password, registers, normal⟩ := registered other mem
          exact ⟨given, password, later registers, normal⟩

/-- What has been registered is kept, with a digest of the password without the blanks around it. -/
theorem of_registers {requests : List Request} {given password : String} {user : User}
    (directory : Directory session.store accounts)
    (registers : Registers hasher session requests given password user) :
    ∃ all account, Directory (Registrar.serveAll hasher session requests).store all ∧
      account ∈ all ∧ account.user = user ∧ normalizeUsername given = .ok account.name ∧
      hasher.hash (trim password) = .ok account.digest := by
  obtain ⟨before, later, rfl, done⟩ := registers
  obtain ⟨more, earlier, -⟩ := directory.serveAll hasher before
  rcases earlier.register_cases hasher given password with ⟨f, after, failed, -⟩ |
    ⟨account, after, succeeded, normal, hashed, taken, stored⟩
  · rw [failed] at done
    cases done
  · rw [succeeded] at done
    have served : (Request.register given password).serve hasher
        (Registrar.serveAll hasher session before) = after := by
      rw [Request.serve, succeeded]
    have grown : Directory after.store (accounts ++ more ++ [account]) := by
      rw [stored]
      exact earlier.accepted taken (isUsername_of_normalize normal)
    obtain ⟨others, now, -⟩ := grown.serveAll hasher later
    rw [serveAll_append, serveAll_cons, served]
    exact ⟨_, account, now, by simp, Except.ok.inj done, normal, hashed⟩

section Lookups

variable (directory : Directory session.store accounts)

include directory

/-- An account is the one that is found by its name. -/
theorem find?_name (mem : account ∈ accounts) :
    accounts.find? (fun other => other.name == account.name) = some account :=
  find?_of_distinct directory.distinct mem

/-- An account is the one that is found by its id. -/
theorem find?_id (mem : account ∈ accounts) :
    accounts.find? (fun other => other.id == account.id) = some account := by
  have distinct : (accounts.map Account.id).Nodup := by
    refine List.pairwise_map.2 (directory.increasing.imp fun less same => ?_)
    rw [same] at less
    exact Int.lt_irrefl _ less
  exact find?_of_distinct distinct mem

/-- Whoever has an account is found by the name and by the id, and logs in with the password. -/
theorem outcomes_of_mem {other secret : String}
    (honest : ∀ p digest, hasher.hash p = .ok digest →
      ∀ q, hasher.verify digest q = .ok (p == q))
    (mem : account ∈ accounts) (hashed : hasher.hash (trim secret) = .ok account.digest)
    (normal : normalizeUsername other = .ok account.name) :
    (∀ p, ((Accounts.authenticate hasher other p).outcome session).1 =
      if trim p = trim secret then .ok account.user else .error (.rejected .wrongPassword)) ∧
    ((Accounts.userByName other).outcome session).1 = .ok account.user ∧
    ((Accounts.userById account.id).outcome session).1 = .ok account.user := by
  have named := directory.find?_name mem
  refine ⟨fun p => ?_, ?_, ?_⟩
  · have built := statement_questionForName (isUsername_of_normalize normal)
    rw [outcome_authenticate normal built directory.has, named]
    simp only [honest _ _ hashed]
    by_cases same : trim p = trim secret
    · rw [if_pos same, same, beq_self_eq_true]
    · have differs : (trim secret == trim p) = false := beq_false_of_ne fun e => same e.symm
      rw [if_neg same, differs]
  · rw [directory.outcome_userByName normal, named]
  · rw [outcome_userById directory.has, directory.find?_id mem]

/-- Whoever has no account is not found by the name, and does not log in. -/
theorem outcomes_of_free {other name : String} (normal : normalizeUsername other = .ok name)
    (free : ∀ account ∈ accounts, account.name ≠ name) :
    (∀ p, ((Accounts.authenticate hasher other p).outcome session).1 = .error (.noUser name)) ∧
      ((Accounts.userByName other).outcome session).1 = .error (.noUser name) := by
  have none : accounts.find? (fun account => account.name == name) = none := by
    refine List.find?_eq_none.2 fun account mem => ?_
    simpa using free account mem
  refine ⟨fun p => ?_, ?_⟩
  · have built := statement_questionForName (isUsername_of_normalize normal)
    rw [outcome_authenticate normal built directory.has, none]
  · rw [directory.outcome_userByName normal, none]

end Lookups

end Directory

/-- Registration and login agree, with a hasher that finds a password right for a digest exactly if it
is what the digest was made of.  Whatever else is asked between, whoever has registered logs in by any
spelling of the name, with the password and no other, the blanks around it apart, and is found by name
and by id; who has not registered, and is not the administrator, is not found. -/
theorem registration_and_login_agree {hasher : Hasher} {password : String} {session start : Session}
    (honest : ∀ p digest, hasher.hash p = .ok digest →
      ∀ q, hasher.verify digest q = .ok (p == q))
    (initialized : (Bootstrap.run hasher password).outcome session = (.ok (), start))
    (requests : List Request) :
    (∀ given secret user, Registers hasher start requests given secret user →
      ∀ other, normalizeUsername other = normalizeUsername given →
        (∀ p, ((Accounts.authenticate hasher other p).outcome
            (serveAll hasher start requests)).1 =
          if trim p = trim secret then .ok user else .error (.rejected .wrongPassword)) ∧
        ((Accounts.userByName other).outcome (serveAll hasher start requests)).1 = .ok user ∧
        ∃ id, user.id = some id ∧
          ((Accounts.userById id).outcome (serveAll hasher start requests)).1 = .ok user) ∧
    ∀ other name, normalizeUsername other = .ok name → name ≠ Bootstrap.administrator →
      (∀ given secret user, Registers hasher start requests given secret user →
        normalizeUsername given ≠ .ok name) →
      (∀ p, ((Accounts.authenticate hasher other p).outcome (serveAll hasher start requests)).1 =
        .error (.noUser name)) ∧
      ((Accounts.userByName other).outcome (serveAll hasher start requests)).1 =
        .error (.noUser name) := by
  obtain ⟨id, digest, directory, -⟩ := directory_of_run initialized
  refine ⟨?_, ?_⟩
  · intro given secret user registers other same
    obtain ⟨all, account, now, mem, rfl, normal, hashed⟩ := directory.of_registers registers
    obtain ⟨logins, named, numbered⟩ :=
      now.outcomes_of_mem honest mem hashed (same.trans normal)
    exact ⟨logins, named, account.id, rfl, numbered⟩
  · intro other name normal common unregistered
    obtain ⟨more, now, registered⟩ := directory.serveAll hasher requests
    refine now.outcomes_of_free normal fun account mem same => ?_
    rcases List.mem_cons.1 mem with rfl | mem
    · exact common same.symm
    · obtain ⟨given, secret, registers, named⟩ := registered account mem
      rw [same] at named
      exact unregistered given secret _ registers named

/-- The account of the administrator of a new store. -/
def administratorAccount : Account :=
  ⟨1, Bootstrap.administrator, "hashed:secret"⟩

/-- The directory of a new store has the administrator. -/
theorem directory_initializedStore : Directory initializedStore [administratorAccount] := by
  have normal : isUsername Bootstrap.administrator = true := rfl
  refine ⟨⟨[.table (userCount 1)], [], rfl, fun item mem => ?_⟩, List.pairwise_singleton _ _,
    List.nodup_singleton _, fun account mem => ?_, rfl⟩
  · rw [List.append_nil] at mem
    rw [List.mem_singleton.1 mem]
    exact (by decide : sameName sequenceName "users" = false)
  · rw [List.mem_singleton.1 mem]
    exact normal

/-- A user registers with a new store. -/
theorem outcome_register_worf (log : List LogEntry) :
    ((Accounts.register marker " Worf " "honor ").outcome ⟨initializedStore, log⟩).1 =
      .ok ⟨some 2, "worf", "hashed:honor"⟩ := by
  have found : Accounts.candidate " Worf " "honor " = .ok ("worf", "honor") := rfl
  have directory := directory_initializedStore
  have taken : accept initializedStore [administratorAccount] "worf" "hashed:honor" = .ok 2 := rfl
  have has : (Session.mk initializedStore log).store.database.HasUsers
      ([administratorAccount].map Account.row) := directory.has
  rw [outcome_register found has]
  have asked : Directory ((Session.mk initializedStore log).afterAsking
      ⟨takenText, [.text "worf"]⟩).store [administratorAccount] := directory
  have enrolled := outcome_enroll "worf" "hashed:honor" asked.has asked.increasing asked.outside
  have accepts : accept ((Session.mk initializedStore log).afterAsking
      ⟨takenText, [.text "worf"]⟩).store [administratorAccount] "worf" "hashed:honor" = .ok 2 := taken
  rw [accepts] at enrolled
  exact congrArg Prod.fst enrolled

/-- A user who has registered with a new store logs in by another spelling of the name. -/
theorem registration_and_login_agree_worf :
    ∃ start user, (Bootstrap.run marker "secret").outcome ⟨.opened .empty, []⟩ = (.ok (), start) ∧
      Registers marker start [.register " Worf " "honor ", .usernames] " Worf " "honor " user ∧
      ((Accounts.authenticate marker "WORF" " honor").outcome
        (serveAll marker start [.register " Worf " "honor ", .usernames])).1 = .ok user := by
  obtain ⟨log, done⟩ := outcome_run_opened
  have registers : Registers marker ⟨initializedStore, log⟩
      [.register " Worf " "honor ", .usernames] " Worf " "honor " ⟨some 2, "worf", "hashed:honor"⟩ :=
    ⟨[], [.usernames], rfl, outcome_register_worf log⟩
  have honest : ∀ p digest, marker.hash p = .ok digest →
      ∀ q, marker.verify digest q = .ok (p == q) := by
    intro p digest hashed q
    rw [← Except.ok.inj hashed]
    refine congrArg Except.ok ?_
    rw [Bool.eq_iff_iff, beq_iff_eq, beq_iff_eq, String.append_right_inj]
  have capital : normalizeUsername "WORF" = .ok "worf" := rfl
  have spaced : normalizeUsername " Worf " = .ok "worf" := rfl
  have blank : trim " honor" = trim "honor " := rfl
  have agree := (registration_and_login_agree honest done
    [.register " Worf " "honor ", .usernames]).1 _ _ _ registers _ (capital.trans spaced.symm)
  have login := agree.1 " honor"
  rw [if_pos blank] at login
  exact ⟨_, _, done, registers, login⟩

end Registrar
