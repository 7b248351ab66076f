import Registrar.Proofs.Accounts.Asking
import Registrar.Proofs.Mutation

/-!
# Registration

A user is inserted with the next id, unless there is none, the name is taken or a reference would be
broken.  Registering asks whether the name is taken, hashes the password and inserts the user; the
lemmas below say what it comes to on a store with the table of users.
-/

namespace Registrar

open Registrar.Text Registrar.Sql Registrar.Sql.Token Registrar.Sql.Database Call

section Statement

/-- The text of the insertion of a user. -/
def enrollText : String :=
  "INSERT INTO `users` (users_val, password) VALUES (?, ?)"

/-- The insertion of a user as it is read. -/
def enrollStatement : Sql.Statement :=
  .insert "users" (some ["users_val", "password"]) (.values [[.parameter 1, .parameter 2]]) []

/-- The tokens of the insertion of a user behind its first word. -/
def enrollTokens : List Token :=
  [wordAt "INTO" 7, ⟨.bracketedName, "`users`".toList, 12, 0⟩, symbolAt "(" 20,
    wordAt "users_val" 21, symbolAt "," 30, wordAt "password" 32, symbolAt ")" 40, wordAt "VALUES" 42,
    symbolAt "(" 49, markAt 50 1, symbolAt "," 51, markAt 53 2, symbolAt ")" 54]

/-- The insertion of a user is read from its text. -/
theorem parse_enrollText :
    parse enrollText = .ok ⟨some enrollStatement, 2, enrollText, []⟩ := by
  have tokens : numbered enrollText = wordAt "INSERT" 0 :: enrollTokens := rfl
  have reads : ∀ cs, readStatement cs (wordAt "INSERT" 0 :: enrollTokens) =
      .ok (enrollStatement, []) :=
    fun _ => rfl
  exact parse_whole tokens rfl (reads _)

/-- The description of the table of users. -/
def usersInfo : TableInfo :=
  ⟨"users", ⟨"users_id", "INTEGER", false, true, none⟩,
    [⟨"users_val", "TEXT", true, false, none⟩, ⟨"password", "TEXT", true, false, none⟩]⟩

/-- The table of users is described. -/
theorem describe_users {db : Database} {rows : List Sql.Row} (has : db.HasUsers rows) :
    db.describe "users" = .ok usersInfo := by
  have columns : db.columnInfo "users" = usersInfo.columns := by
    rw [Database.columnInfo, has.find?]
    rfl
  rw [Database.describe, identifier_users]
  simp only [bind, Except.bind, columns]
  rfl

/-- The name and the digest of a user are given. -/
theorem insertPairs_user (name digest : String) :
    insertPairs "users" (User.new name digest).record.columnValues usersInfo.insertColumns =
      .ok [("users_val", .text name), ("password", .text digest)] :=
  rfl

/-- The statement that inserts a user. -/
theorem insertStatement_user (name digest : String) :
    insertStatement "users" [("users_val", .text name), ("password", .text digest)] =
      ⟨enrollText, [.text name, .text digest]⟩ :=
  rfl

end Statement

section Ids

variable {accounts : List Account} {counted : Int} {id : Int64}

/-- The greatest id of the users, or nothing. -/
def greatestId (accounts : List Account) : Int :=
  (accounts.getLast?.map fun account => account.id.toInt).getD 0

/-- The users count on from the greatest id that they have or had. -/
theorem nextId_accounts (accounts : List Account) (counted : Int) :
    nextId (usersTable (accounts.map Account.row)) counted =
      match Number.int64? (max (greatestId accounts) counted + 1) with
      | some id => .ok id
      | none => .error .full := by
  have ids : (usersTable (accounts.map Account.row)).lastId? = accounts.getLast?.map Account.id := by
    show ((accounts.map Account.row).getLast?).map Sql.Row.id = _
    rw [List.getLast?_map, Option.map_map]
    rfl
  rw [nextId, ids, greatestId]
  cases accounts.getLast? <;> rfl

/-- Where ids increase, none is greater than the last. -/
theorem le_greatestId (increasing : accounts.Pairwise fun a b => a.id.toInt < b.id.toInt)
    {account : Account} (mem : account ∈ accounts) : account.id.toInt ≤ greatestId accounts := by
  obtain ⟨before, last, rfl⟩ : ∃ before last, accounts = before ++ [last] := by
    have filled : accounts ≠ [] := List.ne_nil_of_mem mem
    exact ⟨_, _, (List.dropLast_append_getLast filled).symm⟩
  have greatest : greatestId (before ++ [last]) = last.id.toInt := by
    rw [greatestId, List.getLast?_append]
    rfl
  rw [greatest]
  rcases List.mem_append.1 mem with among | own
  · have order := (List.pairwise_append.1 increasing).2.2
    exact Int.le_of_lt (order account among last (List.mem_singleton_self last))
  · have same : account = last := List.mem_singleton.1 own
    exact Int.le_of_eq (congrArg (fun account => account.id.toInt) same)

/-- The next id is one more than the greatest that the users have or had. -/
theorem toInt_of_nextId (next : nextId (usersTable (accounts.map Account.row)) counted = .ok id) :
    id.toInt = max (greatestId accounts) counted + 1 := by
  rw [nextId_accounts] at next
  split at next
  · next same =>
    rw [← Except.ok.inj next]
    exact Number.int64?_eq_some_iff.1 same
  · cases next

/-- The next id is greater than every id that the users have or had. -/
theorem lt_of_nextId (increasing : accounts.Pairwise fun a b => a.id.toInt < b.id.toInt)
    (next : nextId (usersTable (accounts.map Account.row)) counted = .ok id) :
    counted < id.toInt ∧ ∀ account ∈ accounts, account.id.toInt < id.toInt := by
  have exact := toInt_of_nextId next
  refine ⟨by omega, fun account mem => ?_⟩
  have least := le_greatestId increasing mem
  omega

/-- Where no id is greater than a number, the greatest is not. -/
theorem greatestId_le {last : Int} (least : 0 ≤ last)
    (among : ∀ account ∈ accounts, account.id.toInt ≤ last) : greatestId accounts ≤ last := by
  unfold greatestId
  cases found : accounts.getLast? with
  | none => exact least
  | some account => exact among account (List.mem_of_getLast? found)

end Ids

section Acceptance

variable {accounts : List Account} {name digest : String} {id : Int64}

/-- Users agree in their names only if these are the same. -/
theorem agree_names (rows : List Sql.Row) (id : Int64) (name digest : String) (account : Account) :
    (usersTable rows).agree [1] (userRow id name digest).cells account.row.cells =
      (account.name == name) := by
  have texts : (usersTable rows).agree [1] (userRow id name digest).cells account.row.cells =
      (compare name account.name == .eq) := by
    show (some (compare name account.name) == some .eq && true) = _
    cases compare name account.name <;> rfl
  rw [texts, compare_beq_eq, Bool.beq_comm]

/-- A user of a new id is refused only where the name is taken. -/
theorem check_account (env : Env) (fresh : ∀ account ∈ accounts, account.id.toInt < id.toInt) :
    (usersTable (accounts.map Account.row)).check env (accounts.map Account.row)
        (userRow id name digest) =
      if accounts.any fun account => account.name == name then
        .error (.broken (.unique ["users.users_val"] false))
      else .ok () := by
  have free : ((accounts.map Account.row).any fun other => other.id == id) = false := by
    rw [List.any_map, List.any_eq_false]
    intro account mem same
    have less := fresh account mem
    have equal : account.id = id := by simpa [Account.row] using same
    rw [equal] at less
    exact Int.lt_irrefl _ less
  have taken : ((accounts.map Account.row).any fun other =>
      (usersTable (accounts.map Account.row)).agree [1] (userRow id name digest).cells
        other.cells) = accounts.any fun account => account.name == name := by
    rw [List.any_map]
    exact congrArg accounts.any (funext fun account => agree_names _ id name digest account)
  rw [check_userRow, free, taken]
  rfl

/-- A row of the greatest id is added at the end. -/
theorem insertRow_of_greatest {rows : List Sql.Row} {row : Sql.Row}
    (greatest : ∀ other ∈ rows, other.id.toInt < row.id.toInt) :
    Sql.Table.insertRow row rows = rows ++ [row] := by
  induction rows with
  | nil => rfl
  | cons other rows ih =>
    have less := greatest other List.mem_cons_self
    have order : ¬row.id.toInt < other.id.toInt := by omega
    rw [Sql.Table.insertRow, if_neg order, ih fun later mem => greatest later
      (List.mem_cons_of_mem other mem)]
    rfl

/-- The id under which a store takes in a user: the next one, unless there is none, the name is taken
or a reference would be broken. -/
def accept (s : Store) (accounts : List Account) (name digest : String) : Except Problem Int64 := do
  let id ← nextId (usersTable (accounts.map Account.row)) (s.database.counted (usersTable []))
  if accounts.any fun account => account.name == name then
    .error (.broken (.unique ["users.users_val"] false))
  else if s.enforcing then
    (s.database.checkReferences
      (s.database.enroll (accounts.map Account.row) (userRow id name digest))).map fun _ => id
  else .ok id

/-- Where the name is free, it is not for the name that a user is refused. -/
theorem isRepeated_of_accept {s : Store} {problem : Problem}
    (free : (accounts.any fun account => account.name == name) = false)
    (refused : accept s accounts name digest = .error problem) : problem.isRepeated = false := by
  rw [accept, nextId_accounts] at refused
  split at refused
  · simp only [bind, Except.bind, free, Bool.false_eq_true, if_false] at refused
    split at refused
    · unfold Database.checkReferences at refused
      dsimp only at refused
      split at refused
      · cases refused
      · rw [← Except.error.inj refused]
        rfl
    · cases refused
  · rw [← Except.error.inj refused]
    rfl

/-- What a store is after it has taken in a user. -/
def accepted (s : Store) (accounts : List Account) (account : Account) : Store :=
  s.afterChange ⟨s.database.enroll (accounts.map Account.row) account.row, some account.id, 1, .none⟩

/-- A user is inserted under the id under which the store takes the user in. -/
theorem run_userInsertion_account {s : Store}
    (has : s.database.HasUsers (accounts.map Account.row))
    (increasing : accounts.Pairwise fun a b => a.id.toInt < b.id.toInt) :
    (userInsertion (.parameter 1) (.parameter 2)).run s.database s.enforcing
        (s.env [.text name, .text digest]) =
      (accept s accounts name digest).map fun id =>
        ⟨s.database.enroll (accounts.map Account.row) (userRow id name digest), some id, 1, .none⟩ := by
  rw [run_userInsertion has s.enforcing rfl rfl, accept]
  show (nextId (usersTable (accounts.map Account.row)) (s.database.counted (usersTable [])) >>= _) = _
  cases next : nextId (usersTable (accounts.map Account.row))
      (s.database.counted (usersTable [])) with
  | error problem => rfl
  | ok id =>
    have fresh := (lt_of_nextId increasing next).2
    simp only [bind, Except.bind, check_account _ fresh]
    cases accounts.any fun account => account.name == name with
    | true => rfl
    | false =>
      cases s.enforcing with
      | false => rfl
      | true =>
        simp only [Bool.false_eq_true, if_true, if_false]
        cases s.database.checkReferences
          (s.database.enroll (accounts.map Account.row) (userRow id name digest)) <;> rfl

end Acceptance

section Outcome

variable {session : Session} {accounts : List Account} {name digest : String}

/-- The session after a statement that changes nothing since it fails. -/
def Session.afterFailing (session : Session) (statement : Statement) : Session :=
  { session with log := entry statement :: session.log }

/-- The session after a user has been taken in. -/
def Session.afterAccepting (session : Session) (accounts : List Account) (account : Account) :
    Session :=
  ⟨accepted session.store accounts account,
    entry ⟨enrollText, [.text account.name, .text account.digest]⟩ :: session.log⟩

/-- The insertion of a user is carried out in a transaction of its own. -/
theorem outcome_insert_user (has : session.store.database.HasUsers (accounts.map Account.row))
    (increasing : accounts.Pairwise fun a b => a.id.toInt < b.id.toInt)
    (outside : session.store.saved = none) :
    (Call.insert User.recordType.table (User.new name digest).record.columnValues).outcome session =
      match accept session.store accounts name digest with
      | .ok id => (.ok id, session.afterAccepting accounts ⟨id, name, digest⟩)
      | .error problem => (.error (.storage (.statement (problem.bare.seenIn enrollText))),
          session.afterFailing ⟨enrollText, [.text name, .text digest]⟩) := by
  have described : session.store.database.describe User.recordType.table = .ok usersInfo :=
    describe_users has
  have given : insertPairs User.recordType.table (User.new name digest).record.columnValues
      usersInfo.insertColumns = .ok [("users_val", .text name), ("password", .text digest)] :=
    insertPairs_user name digest
  have planned := planInsert_user (d := .parameter 1) (e := .parameter 2) has
    session.store.enforcing rfl
  have means : session.store.prepare enrollText enrollStatement =
      .ok (.insert (userInsertion (.parameter 1) (.parameter 2))) := by
    simp only [Store.prepare, enrollStatement, planned, bind, Except.bind]
  have changes := changesRows_insertStatement "users"
    [("users_val", .text name), ("password", .text digest)]
  have ran : runOn session.store ⟨enrollText, [.text name, .text digest]⟩ =
      match accept session.store accounts name digest with
      | .ok id => .ok (.none, accepted session.store accounts ⟨id, name, digest⟩)
      | .error problem => .error (.statement (problem.bare.seenIn enrollText)) := by
    rw [runOn_of_parse parse_enrollText means rfl]
    simp only [Store.runReady, Store.run, run_userInsertion_account has increasing]
    cases accept session.store accounts name digest <;> rfl
  have carried := changeOn_outside changes outside
  rw [insertStatement_user, ran] at carried
  simp only [Call.insert, outcome_bind, outcome_store, outcome_lift, described, given,
    outcome_discard, outcome_change]
  have same : insertStatement User.recordType.table
      [("users_val", .text name), ("password", .text digest)] =
        ⟨enrollText, [.text name, .text digest]⟩ := insertStatement_user name digest
  rw [same, carried]
  cases accept session.store accounts name digest <;> rfl

/-- Enrolling yields the user with the id under which the store takes the user in; a name that is
taken is reported as such. -/
theorem outcome_enroll (name digest : String)
    (has : session.store.database.HasUsers (accounts.map Account.row))
    (increasing : accounts.Pairwise fun a b => a.id.toInt < b.id.toInt)
    (outside : session.store.saved = none) :
    (Accounts.enroll (User.new name digest)).outcome session =
      match accept session.store accounts name digest with
      | .ok id => (.ok ⟨some id, name, digest⟩, session.afterAccepting accounts ⟨id, name, digest⟩)
      | .error problem =>
        (.error (if problem.isRepeated then .userExists name
            else .storage (.statement (problem.bare.seenIn enrollText))),
          session.afterFailing ⟨enrollText, [.text name, .text digest]⟩) := by
  rw [Accounts.enroll, outcome_bind, outcome_tryCatch, outcome_insert_user has increasing outside]
  cases accept session.store accounts name digest <;> rfl

/-- What registering needs is given by a name in its normal form and a password without blanks around
it, which is not empty. -/
theorem of_candidate {given password secret : String}
    (found : Accounts.candidate given password = .ok (name, secret)) :
    normalizeUsername given = .ok name ∧ isUsername name = true ∧ secret = trim password ∧
      (trim password).isEmpty = false := by
  obtain ⟨normal, normalized, found⟩ := bind_eq_ok found
  split at found
  · cases found
  · next filled =>
    obtain ⟨rfl, rfl⟩ := Prod.mk.inj (Except.ok.inj found)
    exact ⟨normalized, isUsername_of_normalize normalized, rfl, by simpa using filled⟩

/-- Registering fails without asking the store where the name or the password is refused. -/
theorem outcome_register_of_refused {hasher : Hasher} {given password : String} {f : Failure}
    (refused : Accounts.candidate given password = .error f) :
    (Accounts.register hasher given password).outcome session = (.error f, session) := by
  rw [Accounts.register, refused]
  exact outcome_bind_of_error (outcome_lift _ _)

/-- Registering asks whether the name is taken, hashes the password and enrolls the user. -/
theorem outcome_register {hasher : Hasher} {given password secret : String}
    (found : Accounts.candidate given password = .ok (name, secret))
    (has : session.store.database.HasUsers (accounts.map Account.row)) :
    (Accounts.register hasher given password).outcome session =
      if accounts.any fun account => account.name == name then
        (.error (.userExists name), session.afterAsking ⟨takenText, [.text name]⟩)
      else
        match hasher.hash secret with
        | .error message =>
          (.error (.credential message), session.afterAsking ⟨takenText, [.text name]⟩)
        | .ok digest =>
          (Accounts.enroll (User.new name digest)).outcome
            (session.afterAsking ⟨takenText, [.text name]⟩) := by
  have valid := (of_candidate found).2.1
  have lifted : (Call.lift (Accounts.candidate given password)).outcome session =
      (.ok (name, secret), session) := by rw [found, outcome_lift]
  rw [Accounts.register, outcome_bind_of_ok lifted]
  dsimp only
  rw [outcome_bind_of_ok (outcome_isTaken has valid)]
  cases accounts.any fun account => account.name == name with
  | true => rfl
  | false =>
    simp only [Bool.false_eq_true, if_false, outcome_bind, outcome_lift, Accounts.hash]
    cases hasher.hash secret <;> rfl

end Outcome

end Registrar
