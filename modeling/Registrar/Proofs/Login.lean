import Registrar.Proofs.Bootstrap

/-!
# The login of the administrator

Logging in looks the user up by name and has the hasher check the password, without the blanks around
it, against the digest that is stored.  Making the users anew stores a digest of the password as it is
given, and stores it for the user of the first id.
-/

namespace Registrar

open Registrar.Sql (Store nextId)
open Registrar.Text (trim sameName)
open Call

section Asking

variable {accounts : List Account} {name : String}

/-- The row of an answer that tells of a user. -/
def Account.shown (account : Account) : Row :=
  ⟨[("users_id", .integer account.id), ("users_val", .text account.name),
    ("password", .text account.digest)]⟩

/-- The rows of an answer tell of its users. -/
theorem ofAnswer_users (accounts : List Account) :
    Row.ofAnswer (usersAnswer accounts) = accounts.map Account.shown := by
  rw [Row.ofAnswer, usersAnswer, List.map_map]
  rfl

variable {session : Session}

/-- A question for a name yields the first user of it. -/
theorem outcome_userOfNormal
    (built : (Accounts.questionForName name).statement = .ok ⟨nameText, [.text name]⟩)
    (has : session.store.database.HasUsers (accounts.map Account.row)) :
    (Accounts.userOfNormal name).outcome session =
      (match accounts.find? fun account => account.name == name with
        | some account => .ok account.user
        | none => .error (.noUser name), session.afterAsking ⟨nameText, [.text name]⟩) := by
  have selected := outcome_select_of_run built parse_nameText (plan_nameQuery has) rfl
    (run_namePlan accounts rfl)
  rw [ofAnswer_users] at selected
  rw [Accounts.userOfNormal, outcome_bind_of_ok selected, ← List.head?_filter]
  cases accounts.filter fun account => account.name == name with
  | nil => rfl
  | cons account others => exact outcome_lift _ _

/-- Logging in yields the first user of the name if the hasher finds the password right, without the
blanks around it. -/
theorem outcome_authenticate {hasher : Hasher} {given password : String}
    (normal : normalizeUsername given = .ok name)
    (built : (Accounts.questionForName name).statement = .ok ⟨nameText, [.text name]⟩)
    (has : session.store.database.HasUsers (accounts.map Account.row)) :
    (Accounts.authenticate hasher given password).outcome session =
      (match accounts.find? fun account => account.name == name with
        | some account =>
          match hasher.verify account.digest (trim password) with
          | .ok true => .ok account.user
          | .ok false => .error (.rejected .wrongPassword)
          | .error message => .error (.credential message)
        | none => .error (.noUser name), session.afterAsking ⟨nameText, [.text name]⟩) := by
  have looked : (Accounts.userByName given).outcome session =
      (Accounts.userOfNormal name).outcome session := by
    rw [Accounts.userByName, normal]
    exact outcome_bind_of_ok (outcome_lift _ _)
  rw [outcome_userOfNormal built has] at looked
  rw [Accounts.authenticate, outcome_bind, looked]
  cases accounts.find? fun account => account.name == name with
  | none => rfl
  | some account =>
    simp only [outcome_bind, outcome_lift, Accounts.verify, Account.user]
    cases hasher.verify account.digest (trim password) with
    | error message => rfl
    | ok right => cases right <;> rfl

end Asking

namespace Bootstrap

/-- The change of the password is this statement. -/
theorem updateStatement_password (digest : String) :
    updateStatement User.recordType.table (Entries.ofList [("password", .text digest)])
      (.scalar (.integer 1)) = .ok ⟨passwordText, [.text digest, .integer 1]⟩ := by
  have text : "UPDATE `" ++ "users" ++ "` SET " ++ ", ".intercalate ["password" ++ " = ?"] ++
      " WHERE " ++ ("users" ++ "_id = ?") = passwordText :=
    rfl
  have named : identifier User.recordType.table = .ok "users" := rfl
  have filled : (Entries.ofList [("password", Value.text digest)]).isEmpty = false := rfl
  have meant : (Condition.scalar (.integer 1)).clause "users" =
      .ok ⟨"users" ++ "_id = ?", [.integer 1]⟩ := rfl
  have guarded : (Clause.mk ("users" ++ "_id = ?") [.integer 1]).isEmpty = false := rfl
  have names : (Entries.ofList [("password", Value.text digest)]).names = ["password"] := rfl
  have columns : identifiers ["password"] = .ok ["password"] := rfl
  simp only [updateStatement, named, filled, meant, guarded, names, columns, bind, Except.bind,
    Bool.false_eq_true, if_false]
  rw [← text]
  rfl

/-- The password is changed by this statement alone. -/
theorem outcome_setPassword (digest : String) (session : Session) :
    (setPassword digest).outcome session =
      (((changeOn session.store ⟨passwordText, [.text digest, .integer 1]⟩).1.mapError
          Failure.storage).map fun _ => (),
        ⟨(changeOn session.store ⟨passwordText, [.text digest, .integer 1]⟩).2,
          entry ⟨passwordText, [.text digest, .integer 1]⟩ :: session.log⟩) := by
  rw [setPassword, outcome_discard, Call.update, updateStatement_password digest,
    outcome_bind_of_ok (outcome_lift _ _), outcome_change]

/-- The password is changed if it is that of the first user, and nothing else is. -/
theorem of_setPassword {session after : Session} {a : Account} {digest : String}
    (has : session.store.database.HasUsers [a.row])
    (done : (setPassword digest).outcome session = (.ok (), after)) :
    after.store.database.HasUsers [(if a.id = 1 then { a with digest } else a).row] ∧
      (after.store.database =
        if a.id = 1 then session.store.database.replace (usersTable [{ a with digest }.row])
        else session.store.database) ∧
      session.store.saved = none ∧ after.store.enforcing = session.store.enforcing := by
  have changes := changesRows_updateStatement (updateStatement_password digest)
  rw [outcome_setPassword] at done
  obtain ⟨result, rfl⟩ := Prod.mk.inj done
  rcases changeOn_cases changes session.store with ⟨fault, left, failed, -⟩ |
    ⟨m, answer, left, changed, outside, -, ran, -⟩
  · rw [failed] at result
    cases result
  · obtain ⟨action, cells, means, bound, ran⟩ := of_runOn parse_passwordText ran
    obtain ⟨revision, planned, means⟩ := bind_eq_ok means
    obtain rfl := of_planUpdate_password has planned
    obtain rfl := Except.ok.inj means
    obtain rfl : [.text digest, .integer 1] = cells := Except.ok.inj bound
    obtain ⟨outcome, revised, ran⟩ := bind_eq_ok ran
    obtain ⟨users, stored⟩ := of_passwordRevision has rfl revised
    rw [changed]
    dsimp only
    rw [← (Prod.mk.inj (Except.ok.inj ran)).2]
    exact ⟨users, stored, outside, rfl⟩

/-- A store counts the users from the first: it has a table of their own name, which is dropped with
its greatest id, or it has nothing of their name and remembers no id of theirs. -/
def CountsAnew (s : Store) : Prop :=
  (∃ t, s.database.table? "users" = some t ∧ t.name = "users") ∨
    (s.database.find? "users" = none ∧ s.database.counted (usersTable []) ≤ 0)

/-- Where nothing has been counted, the next id is the first. -/
theorem nextId_users {counted : Int} (anew : counted ≤ 0) :
    nextId (usersTable []) counted = .ok 1 := by
  have first : max 0 counted + 1 = 1 := by omega
  simp only [nextId, usersTable, Sql.Table.lastId?, List.getLast?_nil, Option.map_none, if_true, first]
  rfl

/-- The administrator has the first id where the users are counted from the first. -/
theorem Seeds.id_eq_one {before seeded : Store} {id : Int64} (seeds : Seeds before id seeded)
    (anew : CountsAnew before) : id = 1 := by
  obtain ⟨cleared, clears, next, -⟩ := seeds.cleared
  have counted : cleared.database.counted (usersTable []) ≤ 0 := by
    rcases anew with ⟨t, found, named⟩ | ⟨none, counted⟩
    · exact Int.le_of_eq (clears.forgets t found named)
    · rwa [clears.absent none]
  exact (Except.ok.inj ((nextId_users counted).symm.trans next)).symm

/-- Where making the users anew succeeds, the administrator is the only user, and has the password if
the id is the first. -/
theorem of_outcome_ok {hasher : Hasher} {password : String} {session after : Session}
    (done : (run hasher password).outcome session = (.ok (), after)) :
    ∃ seeded id digest, Seeds session.store id seeded ∧ hasher.hash password = .ok digest ∧
      after.store.database.HasUsers [userRow id administrator (if id = 1 then digest else "")] ∧
      InsertsAdministrator session.store id seeded ∧
      (after.store.database =
        if id = 1 then seeded.database.replace (usersTable [userRow id administrator digest])
        else seeded.database) ∧
      session.store.saved = none ∧ after.store.enforcing = session.store.enforcing := by
  rcases script_cases session.store with ⟨e, script⟩ | ⟨cleared, e, -, script⟩ |
    ⟨seeded, id, seeds, script, inserts⟩
  · cases (Prod.mk.inj ((outcome_run_of_script script).symm.trans done)).1
  · cases (Prod.mk.inj ((outcome_run_of_script script).symm.trans done)).1
  cases hashed : hasher.hash password with
  | error message => cases (Prod.mk.inj ((outcome_run_of_hash script hashed).symm.trans done)).1
  | ok digest =>
    have changed := (outcome_run_of_digest script hashed).symm.trans done
    obtain ⟨has, kept, outside, enforcing⟩ :=
      of_setPassword (a := ⟨id, administrator, ""⟩) seeds.users changed
    refine ⟨seeded, id, digest, seeds, rfl, ?_, inserts, kept, seeds.saved.symm.trans outside,
      enforcing.trans seeds.enforcing⟩
    by_cases first : id = 1
    · rw [if_pos first] at has ⊢
      exact has
    · rw [if_neg first] at has ⊢
      exact has

end Bootstrap

open Bootstrap

/-- Where making the users anew succeeds, the administrator logs in with the password that was given
exactly when the hasher finds it right without the blanks around it, and the id is the first.  So a
password without blanks around it logs in where the users are counted from the first, if the hasher
finds right what it has hashed. -/
theorem administrator_logs_in {hasher : Hasher} {password : String} {session after : Session}
    (done : (run hasher password).outcome session = (.ok (), after)) :
    ∃ id digest, hasher.hash password = .ok digest ∧
      after.store.database.HasUsers [userRow id administrator (if id = 1 then digest else "")] ∧
      (((Accounts.authenticate hasher administrator password).outcome after).1 =
          .ok ⟨some 1, administrator, digest⟩ ↔
        id = 1 ∧ hasher.verify digest (trim password) = .ok true) ∧
      (CountsAnew session.store → id = 1) ∧
      ((∀ p digest, hasher.hash p = .ok digest → hasher.verify digest p = .ok true) →
        CountsAnew session.store → trim password = password →
        ((Accounts.authenticate hasher administrator password).outcome after).1 =
          .ok ⟨some 1, administrator, digest⟩) := by
  obtain ⟨seeded, id, digest, seeds, hashed, has, -⟩ := of_outcome_ok done
  have normal : normalizeUsername administrator = .ok administrator := rfl
  have built : (Accounts.questionForName administrator).statement =
      .ok ⟨nameText, [.text administrator]⟩ := by
    have text : "SELECT " ++ "*" ++ " FROM " ++ "users" ++ "" ++
        (" WHERE " ++ ("users" ++ "_val = ?")) ++ "" = nameText :=
      rfl
    rw [← text]
    rfl
  have listed : after.store.database.HasUsers
      ([⟨id, administrator, if id = 1 then digest else ""⟩].map Account.row) := has
  have login : ((Accounts.authenticate hasher administrator password).outcome after).1 =
      match hasher.verify (if id = 1 then digest else "") (trim password) with
      | .ok true => .ok ⟨some id, administrator, if id = 1 then digest else ""⟩
      | .ok false => .error (.rejected .wrongPassword)
      | .error message => .error (.credential message) := by
    rw [outcome_authenticate normal built listed]
    rfl
  have exactly : ((Accounts.authenticate hasher administrator password).outcome after).1 =
      .ok ⟨some 1, administrator, digest⟩ ↔
        id = 1 ∧ hasher.verify digest (trim password) = .ok true := by
    rw [login]
    by_cases first : id = 1
    · rw [if_pos first, first]
      cases hasher.verify digest (trim password) with
      | error message => simp
      | ok right => cases right <;> simp
    · rw [if_neg first]
      cases hasher.verify "" (trim password) with
      | error message => simp [first]
      | ok right => cases right <;> simp [first]
  refine ⟨id, digest, hashed, has, exactly, seeds.id_eq_one, ?_⟩
  intro honest anew bare
  refine exactly.2 ⟨seeds.id_eq_one anew, ?_⟩
  rw [bare]
  exact honest password digest hashed

/-- A hasher whose digests are the passwords with a mark in front. -/
def marker : Hasher :=
  ⟨fun password => .ok ("hashed:" ++ password),
    fun digest password => .ok (digest == "hashed:" ++ password)⟩

/-- A store with the administrator only, who has a password. -/
def initializedStore : Store :=
  ⟨⟨[.table (userCount 1), .table (usersTable [userRow 1 "admin" "hashed:secret"])]⟩, none, true, 1,
    1⟩

/-- The password is changed where its statement is carried out. -/
theorem outcome_setPassword_of_runs {s after : Store} {digest : String} (outside : s.saved = none)
    (means : s.prepare passwordText passwordStatement = .ok (.update passwordRevision))
    (runs : s.runReady passwordText [.text digest, .integer 1] (.update passwordRevision) =
      .ok (⟨[], []⟩, after)) (log : List LogEntry) :
    ∃ log', (setPassword digest).outcome ⟨s, log⟩ = (.ok (), ⟨after, log'⟩) := by
  have changes := changesRows_updateStatement (updateStatement_password digest)
  have ran : runOn s ⟨passwordText, [.text digest, .integer 1]⟩ = .ok (⟨[], []⟩, after) := by
    rw [runOn_of_parse parse_passwordText means rfl, runs]
  have changed : changeOn s ⟨passwordText, [.text digest, .integer 1]⟩ =
      (.ok after.changes.toInt.toNat, after) := by
    rw [changeOn_outside changes outside, ran]
    rfl
  rw [outcome_setPassword, changed]
  exact ⟨_, rfl⟩

/-- The password of the administrator is changed. -/
theorem outcome_setPassword_seeded :
    ∃ log, (setPassword "hashed:secret").outcome ⟨seededStore, []⟩ =
      (.ok (), ⟨initializedStore, log⟩) :=
  outcome_setPassword_of_runs rfl rfl rfl []

/-- A new store is initialized. -/
theorem outcome_run_opened :
    ∃ log, (run marker "secret").outcome ⟨.opened .empty, []⟩ = (.ok (), ⟨initializedStore, log⟩) := by
  have inserts : (created (.opened .empty)).carry seeding Bootstrap.insertStatement =
      .ok seededStore := rfl
  have drops : (Store.opened .empty).carry dropping dropStatement = .ok (.opened .empty) := rfl
  have script := script_of_carry drops (carry_usersDeclaration rfl) inserts
  obtain ⟨log, changed⟩ := outcome_setPassword_seeded
  have hashed : marker.hash "secret" = .ok "hashed:secret" := rfl
  have ran : (run marker "secret").outcome ⟨.opened .empty, []⟩ =
      (setPassword "hashed:secret").outcome ⟨seededStore, []⟩ :=
    outcome_run_of_digest script hashed
  exact ⟨log, ran.trans changed⟩

/-- The administrator of a new store logs in. -/
theorem administrator_logs_in_anew :
    ∃ after digest, (run marker "secret").outcome ⟨.opened .empty, []⟩ = (.ok (), after) ∧
      ((Accounts.authenticate marker administrator "secret").outcome after).1 =
        .ok ⟨some 1, administrator, digest⟩ := by
  obtain ⟨log, done⟩ := outcome_run_opened
  obtain ⟨id, digest, -, -, -, -, login⟩ := administrator_logs_in done
  refine ⟨_, digest, done, login ?_ (.inr ⟨rfl, by decide⟩) rfl⟩
  intro p d hashed
  rw [← Except.ok.inj hashed]
  exact congrArg Except.ok (beq_self_eq_true _)

end Registrar
