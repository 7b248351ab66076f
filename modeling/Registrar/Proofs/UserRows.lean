import Registrar.Accounts
import Registrar.Proofs.Outcome
import Registrar.Proofs.Sql.Answering
import Registrar.Proofs.Sql.Written
import Registrar.Proofs.Users

/-!
# Rows of users

What the statements about users do to the rows of their table: a user is inserted with the next id, a
password is changed by the id of its user, and a user is asked for by name.  Each is read from its
text and planned once; what is said about running it holds for whatever rows the table has.
-/

namespace Registrar

open Registrar.Text Registrar.Sql Registrar.Sql.Token Registrar.Sql.Database

/-- The id of the row of a user. -/
@[simp] theorem userRow_id (id : Int64) (name digest : String) : (userRow id name digest).id = id :=
  rfl

/-- A row of a user keeps the rules of the table, unless its id or its name is taken. -/
theorem check_userRow (rows others : List Sql.Row) (env : Env) (id : Int64) (name digest : String) :
    (usersTable rows).check env others (userRow id name digest) =
      if others.any fun other => other.id == id then
        .error (.broken (.unique ["users.users_id"] true))
      else if others.any fun other =>
          (usersTable rows).agree [1] (userRow id name digest).cells other.cells then
        .error (.broken (.unique ["users.users_val"] false))
      else .ok () := by
  have complete : (usersTable rows).missing? (userRow id name digest).cells = none := rfl
  have key : (usersTable rows).keys.find? (fun key => others.any fun other =>
      (usersTable rows).agree key.columns (userRow id name digest).cells other.cells) =
        if others.any fun other =>
            (usersTable rows).agree [1] (userRow id name digest).cells other.cells then
          some ⟨[1], false⟩ else none := by
    show List.find? _ [UniqueKey.mk [1] false] = _
    rw [List.find?_cons]
    split
    · next agrees => rw [if_pos agrees]
    · next differs => simp [differs]
  have ruleless : (usersTable rows).checkRules env (userRow id name digest) (usersTable rows).checks =
      .ok () := rfl
  simp only [Sql.Table.check, complete, ruleless, key, userRow_id, bind, Except.bind]
  cases others.any fun other => other.id == id with
  | true => rfl
  | false =>
    cases others.any fun other =>
      (usersTable rows).agree [1] (userRow id name digest).cells other.cells with
    | true => rfl
    | false => rfl

/-- Inserting the name and the digest of a user. -/
def userInsertion (name digest : Expr) : Insertion :=
  ⟨"users", [some 1, some 2], [[name, digest]], []⟩

/-- An insertion of a user always means something. -/
theorem planInsert_user {db : Database} {rows : List Sql.Row} (has : db.HasUsers rows)
    (enforcing : Bool) {d e : Expr}
    (nameless : resolveRows ⟨[], [], false, true⟩ [[d, e]] = .ok [[d, e]]) :
    db.planInsert enforcing "users" (some ["users_val", "password"]) (.values [[d, e]]) [] =
      .ok (userInsertion d e) := by
  have found : db.changeable "users" = .ok (usersTable rows) := by
    rw [Database.changeable, has.find?]
  have targets : insertTargets (usersTable rows) "users" ["users_val", "password"] =
      .ok [some 1, some 2] := rfl
  simp only [Database.planInsert, found, targets, nameless, bind, Except.bind]
  -- the users refer to nothing, so that it does not matter whether references are checked
  cases enforcing <;> rfl

section Insertion

variable {db : Database} {rows : List Sql.Row} {env : Env} {nameExpr digestExpr : Expr}
  {name digest : String}

/-- A user is inserted with the next id, unless there is none or the row is refused. -/
theorem insertOne_user (rows : List Sql.Row) (counted : Int) (named : nameExpr.eval (env.ofRow []) = .ok (.text name))
    (digested : digestExpr.eval (env.ofRow []) = .ok (.text digest)) :
    insertOne (usersTable rows) env counted [some 1, some 2] [nameExpr, digestExpr] = (do
      let id ← nextId (usersTable rows) counted
      (usersTable rows).check env rows (userRow id name digest)
      .ok (usersTable (Sql.Table.insertRow (userRow id name digest) rows),
        userRow id name digest)) := by
  have values : Expr.evalAll (env.ofRow []) [nameExpr, digestExpr] =
      .ok [.text name, .text digest] := by
    simp only [Expr.evalAll, named, digested]
    rfl
  have cells : newCells (usersTable rows) env [some 1, some 2] [.text name, .text digest] =
      .ok [.null, .text name, .text digest] := rfl
  simp only [insertOne, values, bind, Except.bind, cells]
  rfl

/-- What is done to the users is not done to the others. -/
theorem isOtherName_users : isOtherName "users" = false := by
  decide

/-- The store with another user, whose id is remembered. -/
def Sql.Database.enroll (db : Database) (rows : List Sql.Row) (row : Sql.Row) : Database :=
  (db.replace (usersTable (Sql.Table.insertRow row rows))).remember (usersTable rows)
    (max (db.counted (usersTable rows)) row.id.toInt)

/-- A user is inserted with the next id, unless there is none, the row is refused or a reference would
be broken. -/
theorem run_userInsertion (has : db.HasUsers rows) (enforcing : Bool)
    (named : nameExpr.eval (env.ofRow []) = .ok (.text name))
    (digested : digestExpr.eval (env.ofRow []) = .ok (.text digest)) :
    (userInsertion nameExpr digestExpr).run db enforcing env = (do
      let id ← nextId (usersTable rows) (db.counted (usersTable rows))
      (usersTable rows).check env rows (userRow id name digest)
      if enforcing then db.checkReferences (db.enroll rows (userRow id name digest)) else pure ()
      .ok ⟨db.enroll rows (userRow id name digest), some id, 1, .none⟩) := by
  have found : db.table? (userInsertion nameExpr digestExpr).table = some (usersTable rows) :=
    has.table?
  have one := insertOne_user rows (db.counted (usersTable rows)) named digested
  have all : insertAll env (userInsertion nameExpr digestExpr).targets (usersTable rows)
      (db.counted (usersTable rows)) (userInsertion nameExpr digestExpr).rows = (do
        let id ← nextId (usersTable rows) (db.counted (usersTable rows))
        (usersTable rows).check env rows (userRow id name digest)
        .ok (usersTable (Sql.Table.insertRow (userRow id name digest) rows),
          max (db.counted (usersTable rows)) id.toInt, [userRow id name digest])) := by
    show insertAll env [some 1, some 2] (usersTable rows) (db.counted (usersTable rows))
      [[nameExpr, digestExpr]] = _
    rw [insertAll, one]
    cases nextId (usersTable rows) (db.counted (usersTable rows)) with
    | error problem => rfl
    | ok id =>
      simp only [bind, Except.bind]
      cases (usersTable rows).check env rows (userRow id name digest) <;> rfl
  simp only [Insertion.run, found]
  rw [all]
  cases nextId (usersTable rows) (db.counted (usersTable rows)) with
  | error problem => rfl
  | ok id =>
    simp only [bind, Except.bind]
    cases (usersTable rows).check env rows (userRow id name digest) with
    | error problem => rfl
    | ok _ =>
      -- the references are checked or they are not; nothing is changed by that
      cases enforcing <;> rfl

/-- Inserting a user adds the row, and does not change the others. -/
theorem hasUsers_enroll (has : db.HasUsers rows) (row : Sql.Row) :
    (db.enroll rows row).HasUsers (Sql.Table.insertRow row rows) ∧
      (db.enroll rows row).others = db.others :=
  ⟨has.replace.remember _ _,
    (others_remember _ _ _).trans (others_replace db isOtherName_users)⟩

/-- What inserting a user comes to where it succeeds. -/
theorem of_userInsertion (has : db.HasUsers rows) {enforcing : Bool} {outcome : Sql.Outcome}
    (named : nameExpr.eval (env.ofRow []) = .ok (.text name))
    (digested : digestExpr.eval (env.ofRow []) = .ok (.text digest))
    (ran : (userInsertion nameExpr digestExpr).run db enforcing env = .ok outcome) :
    ∃ id, nextId (usersTable rows) (db.counted (usersTable rows)) = .ok id ∧
      (usersTable rows).check env rows (userRow id name digest) = .ok () ∧
      outcome = ⟨db.enroll rows (userRow id name digest), some id, 1, .none⟩ := by
  rw [run_userInsertion has enforcing named digested] at ran
  obtain ⟨id, next, ran⟩ := bind_eq_ok ran
  obtain ⟨_, kept, ran⟩ := bind_eq_ok ran
  cases enforcing with
  | false => exact ⟨id, next, kept, (Except.ok.inj ran).symm⟩
  | true =>
    obtain ⟨_, -, ran⟩ := bind_eq_ok ran
    exact ⟨id, next, kept, (Except.ok.inj ran).symm⟩

end Insertion


section Questions

/-- The question for the user of a name. -/
def nameQuery : Select :=
  ⟨false, [.all], [⟨.inner, "users", none, none, []⟩],
    some (.binary .eq (.column none "users_val" false 26) (.parameter 1)), [], none, [], none, none⟩

/-- The text of the question for the user of a name. -/
def nameText : String :=
  "SELECT * FROM users WHERE users_val = ?"

/-- The question for the user of a name is read from its text. -/
theorem parse_nameText :
    parse nameText = .ok ⟨some (.select nameQuery), 1, nameText, []⟩ := by
  have tokens : numbered nameText = [wordAt "SELECT" 0, symbolAt "*" 7, wordAt "FROM" 9,
      wordAt "users" 14, wordAt "WHERE" 20, wordAt "users_val" 26, symbolAt "=" 36, markAt 38 1] :=
    rfl
  have reads : ∀ cs, readStatement cs [wordAt "SELECT" 0, symbolAt "*" 7, wordAt "FROM" 9,
      wordAt "users" 14, wordAt "WHERE" 20, wordAt "users_val" 26, symbolAt "=" 36, markAt 38 1] =
        .ok (.select nameQuery, []) :=
    fun _ => rfl
  exact parse_whole tokens rfl (reads _)

/-- The users, as a question reads them. -/
def usersRelation (rows : List Sql.Row) : Relation :=
  ⟨(usersTable rows).area "users" 0, rows.map Row.slots, some (usersTable rows), .inner, none⟩

/-- The plan of the question for the user of a name. -/
def namePlan (rows : List Sql.Row) : Plan where
  relations := [usersRelation rows]
  condition := some (.binary .eq (.slot 1 .text .binary) (.parameter 1))
  grouped := false
  groupBy := []
  having := none
  shown := [⟨"users_id", .slot 0 .integer .binary, some "INTEGER", true⟩,
    ⟨"users_val", .slot 1 .text .binary, some "TEXT", true⟩,
    ⟨"password", .slot 2 .text .binary, some "TEXT", true⟩]
  orderBy := []
  distinct := false
  limit := none
  offset := none

/-- The question for the user of a name is planned over the rows of the users. -/
theorem plan_nameQuery {db : Database} {rows : List Sql.Row} (has : db.HasUsers rows) :
    db.plan nameQuery = .ok (namePlan rows) := by
  rw [plan_single has.find? rfl]
  rfl

/-- The user that a row tells of. -/
def Account.user (account : Account) : User :=
  ⟨some account.id, account.name, account.digest⟩

/-- The answer to a question for users. -/
def usersAnswer (accounts : List Account) : Answer :=
  ⟨[("users_id", some "INTEGER"), ("users_val", some "TEXT"), ("password", some "TEXT")],
    accounts.map fun account => account.row.cells⟩

/-- Asking for a name answers with the users of this name. -/
theorem run_namePlan (accounts : List Account) {env : Env} {name : String}
    (given : env.parameters = [.text name]) :
    (namePlan (accounts.map Account.row)).run env =
      .ok (usersAnswer (accounts.filter fun account => account.name == name)) := by
  have filtered : (namePlan (accounts.map Account.row)).chosen env
      ((accounts.map Account.row).map Row.slots) =
        .ok ((accounts.filter fun account => account.name == name).map fun account =>
          account.row.slots) := by
    rw [List.map_map]
    refine filterM_map_eq_ok fun account _ => holds_text rfl ?_
    show env.parameters[0]? = _
    rw [given]
    rfl
  have answer := run_plain (f := fun cells => cells.take 3) (g := fun _ => [])
    ⟨rfl, rfl, rfl, rfl, rfl⟩ (combine_single rfl) filtered ?_ fun _ _ => rfl
  · rw [answer]
    show Except.ok (Answer.mk _ (List.map _ (List.map _ _))) = _
    rw [List.map_map]
    rfl
  · intro cells among
    obtain ⟨account, -, rfl⟩ := List.mem_map.1 among
    rfl

end Questions

section Passwords

/-- The text of the change of a password. -/
def passwordText : String :=
  "UPDATE `users` SET password = ? WHERE users_id = ?"

/-- The change of a password as it is written. -/
def passwordStatement : Sql.Statement :=
  .update "users" [("password", .parameter 1)]
    (some (.binary .eq (.column none "users_id" false 38) (.parameter 2))) []

/-- The tokens of the change of a password behind its first word. -/
def passwordTokens : List Token :=
  [⟨.bracketedName, "`users`".toList, 7, 0⟩, wordAt "SET" 15, wordAt "password" 19, symbolAt "=" 28,
    markAt 30 1, wordAt "WHERE" 32, wordAt "users_id" 38, symbolAt "=" 47, markAt 49 2]

/-- The change of a password is read from its text. -/
theorem parse_passwordText :
    parse passwordText = .ok ⟨some passwordStatement, 2, passwordText, []⟩ := by
  have tokens : numbered passwordText = wordAt "UPDATE" 0 :: passwordTokens := rfl
  have reads : ∀ cs, readStatement cs (wordAt "UPDATE" 0 :: passwordTokens) =
      .ok (passwordStatement, []) :=
    fun _ => rfl
  exact parse_whole tokens rfl (reads _)

/-- The change of a password. -/
def passwordRevision : Revision :=
  ⟨"users", [(some 2, .parameter 1)],
    some (.binary .eq (.slot 0 .integer .binary) (.parameter 2)), []⟩

/-- The change of a password that means something is this one. -/
theorem of_planUpdate_password {db : Database} {rows : List Sql.Row} (has : db.HasUsers rows)
    {enforcing : Bool} {revision : Revision}
    (planned : db.planUpdate enforcing "users" [("password", .parameter 1)]
      (some (.binary .eq (.column none "users_id" false 38) (.parameter 2))) [] = .ok revision) :
    revision = passwordRevision := by
  have found : db.changeable "users" = .ok (usersTable rows) := by
    rw [Database.changeable, has.find?]
  have assigned : resolveAssignments (usersTable rows) [("password", .parameter 1)] =
      .ok [(some 2, .parameter 1)] := rfl
  have condition : (usersTable rows).names.resolveOption
      (some (.binary .eq (.column none "users_id" false 38) (.parameter 2))) =
        .ok (some (.binary .eq (.slot 0 .integer .binary) (.parameter 2))) := rfl
  obtain ⟨t, same, planned⟩ := bind_eq_ok planned
  obtain rfl := Except.ok.inj (found.symm.trans same)
  obtain ⟨assignments, same, planned⟩ := bind_eq_ok planned
  obtain rfl := Except.ok.inj (assigned.symm.trans same)
  obtain ⟨test, same, planned⟩ := bind_eq_ok planned
  obtain rfl := Except.ok.inj (condition.symm.trans same)
  obtain ⟨returning, same, planned⟩ := bind_eq_ok planned
  obtain rfl : [] = returning := Except.ok.inj same
  -- the references are checked or they are not; nothing is changed by that
  cases enforcing with
  | false => exact (Except.ok.inj planned).symm
  | true =>
    obtain ⟨_, -, planned⟩ := bind_eq_ok planned
    obtain ⟨_, -, planned⟩ := bind_eq_ok planned
    exact (Except.ok.inj planned).symm

/-- The users are referred to by their ids or by their names. -/
theorem referredColumns_users {rows : List Sql.Row} {fk : ForeignKey} {columns : List Nat}
    (referred : (usersTable rows).referredColumns fk = some columns) :
    columns = [0] ∨ columns = [1] := by
  unfold Sql.Table.referredColumns at referred
  split at referred
  · split at referred
    · next i c id _ =>
      obtain rfl : 0 = i := Option.some.inj id
      exact .inl (Option.some.inj referred).symm
    · simp [usersTable] at referred
  · obtain ⟨positions, -, referred⟩ := Option.bind_eq_some_iff.1 referred
    split at referred
    · next covered =>
      obtain rfl := Option.some.inj referred
      rw [Bool.or_eq_true, decide_eq_true_eq] at covered
      rcases covered with id | key
      · left
        have single : positions.map some = [some 0] := id
        cases positions with
        | nil => cases single
        | cons i others => simpa using single
      · right
        have single : 1 = positions.length ∧ 1 ∈ positions := by simpa [usersTable] using key
        obtain ⟨i, rfl⟩ := List.length_eq_one_iff.1 single.1.symm
        rw [List.mem_singleton.1 single.2]
    · cases referred

/-- Rows that refer to a user do not follow a change of the password. -/
theorem follow_password {env : Env} {rows : List Sql.Row} {id : Int64} {name old new : String}
    {fuel : Nat} {references : List (Sql.Table × ForeignKey)} {db after : Database}
    (followed : Database.follow env fuel (usersTable rows) (userRow id name old)
      (some (userRow id name new)) references db = .ok after) : after = db := by
  induction references generalizing fuel with
  | nil =>
    cases fuel with
    | zero => cases followed
    | succ fuel => exact (Except.ok.inj followed).symm
  | cons reference references ih =>
    cases fuel with
    | zero => cases followed
    | succ fuel =>
      obtain ⟨child, fk⟩ := reference
      rw [Database.follow] at followed
      split at followed
      · exact ih followed
      · next columns referred =>
        -- the password is in no column that is referred to
        have kept : ((columns.map fun i => ((userRow id name new).cells[i]?).getD .null) !=
            columns.map fun i => ((userRow id name old).cells[i]?).getD .null) = false := by
          rcases referredColumns_users referred with rfl | rfl <;> simp [userRow]
        simp only [kept, Bool.not_false, Bool.or_true, if_true] at followed
        exact ih followed

/-- Changing the password of the only user puts another row in its place. -/
theorem of_reviseAll_password {db : Database} {account : Account} (has : db.HasUsers [account.row])
    {enforcing : Bool} {env : Env} {digest : String} {after : Database} {rows : List Sql.Row}
    (given : env.parameters[0]? = some (.text digest))
    (done : reviseAll env enforcing "users" [(some 2, .parameter 1)] db [account.row] =
      .ok (after, rows)) :
    after = db.replace (usersTable [{ account with digest }.row]) := by
  have cells : revisedCells (usersTable [account.row]) env [(some 2, .parameter 1)] account.row =
      .ok (account.id, { account with digest }.row.cells) := by
    have value : (Expr.parameter 1).eval (env.ofRow account.row.slots) = .ok (.text digest) := by
      simp [Expr.eval, Env.ofRow, given]
    simp only [revisedCells, List.mapM_cons, List.mapM_nil, value]
    rfl
  have exchanged : (usersTable [account.row]).exchange account.id { account with digest }.row =
      usersTable [{ account with digest }.row] := by
    simp [Sql.Table.exchange, Account.row, Sql.Table.insertRow, usersTable]
  simp only [reviseAll, has.table?] at done
  obtain ⟨⟨id, new⟩, same, done⟩ := bind_eq_ok done
  obtain ⟨rfl, rfl⟩ := Prod.mk.inj (Except.ok.inj (cells.symm.trans same))
  obtain ⟨_, -, done⟩ := bind_eq_ok done
  cases enforcing with
  | false =>
    rw [← (Prod.mk.inj (Except.ok.inj done)).1]
    exact congrArg db.replace exchanged
  | true =>
    obtain ⟨after, followed, done⟩ := bind_eq_ok done
    obtain rfl := follow_password followed
    rw [← (Prod.mk.inj (Except.ok.inj done)).1]
    exact congrArg db.replace exchanged

/-- The password of the only user is changed, if the user has the id that is asked for, and nothing else
is. -/
theorem of_passwordRevision {db : Database} {account : Account} (has : db.HasUsers [account.row])
    {enforcing : Bool} {env : Env} {digest : String} {wanted : Int64} {outcome : Sql.Outcome}
    (given : env.parameters = [.text digest, .integer wanted])
    (ran : passwordRevision.run db enforcing env = .ok outcome) :
    outcome.database.HasUsers
        [(if account.id = wanted then { account with digest } else account).row] ∧
      outcome.database =
        if account.id = wanted then db.replace (usersTable [{ account with digest }.row]) else db := by
  have found : db.table? passwordRevision.table = some (usersTable [account.row]) := has.table?
  have meant : (usersTable [account.row]).meeting env passwordRevision.condition =
      .ok (([account].filter fun account => account.id == wanted).map Account.row) := by
    have wantedId : env.parameters[1]? = some (.integer wanted) := by rw [given]; rfl
    show ([account].map Account.row).filterM (fun row => (Expr.binary .eq (.slot 0 .integer .binary)
      (.parameter 2)).holds (env.ofRow row.slots)) = _
    exact filterM_map_eq_ok fun account _ => holds_integer rfl wantedId
  simp only [Revision.run, found] at ran
  obtain ⟨chosen, same, ran⟩ := bind_eq_ok ran
  obtain rfl := Except.ok.inj (meant.symm.trans same)
  obtain ⟨⟨after, rows⟩, revision, ran⟩ := bind_eq_ok ran
  have stored : outcome.database = after := by
    cases enforcing with
    | false =>
      obtain ⟨_, -, ran⟩ := bind_eq_ok ran
      rw [← Except.ok.inj ran]
    | true =>
      obtain ⟨_, -, ran⟩ := bind_eq_ok ran
      obtain ⟨_, -, ran⟩ := bind_eq_ok ran
      rw [← Except.ok.inj ran]
  rw [stored]
  by_cases same : account.id = wanted
  · simp only [if_pos same]
    rw [List.filter_cons_of_pos (by simpa using same)] at revision
    have given : env.parameters[0]? = some (.text digest) := by rw [given]; rfl
    rw [of_reviseAll_password has given revision]
    exact ⟨has.replace, rfl⟩
  · simp only [if_neg same]
    rw [List.filter_cons_of_neg (by simpa using same)] at revision
    obtain ⟨rfl, -⟩ := Prod.mk.inj (Except.ok.inj revision)
    exact ⟨has, rfl⟩

end Passwords

end Registrar
