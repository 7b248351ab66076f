import Registrar.Proofs.Accounts.Enrolling
import Registrar.Proofs.Login

/-!
# The directory of accounts

A store that has been initialized keeps a directory: accounts with increasing ids and different names,
each in its normal form.  Registering a user adds an account of a new id and a new name at the end, or
it fails with nothing changed.
-/

namespace Registrar

open Registrar.Text Registrar.Sql Call

/-- The accounts of a store are in a directory: they are the rows of the users, the ids increase, the
names are different and in their normal form, and no transaction is open. -/
structure Directory (store : Store) (accounts : List Account) : Prop where
  has : store.database.HasUsers (accounts.map Account.row)
  increasing : accounts.Pairwise fun a b => a.id.toInt < b.id.toInt
  distinct : (accounts.map Account.name).Nodup
  normal : ∀ account ∈ accounts, isUsername account.name = true
  outside : store.saved = none

/-- A change of the password that succeeds leaves no transaction open. -/
theorem outside_of_setPassword {session after : Session} {digest : String}
    (done : (Bootstrap.setPassword digest).outcome session = (.ok (), after)) :
    after.store.saved = none := by
  rw [Bootstrap.setPassword, outcome_discard] at done
  obtain ⟨result, rfl⟩ := Prod.mk.inj done
  rcases change : (Call.update User.recordType.table (Entries.ofList [("password", .text digest)])
    (.scalar (.integer 1))).outcome session with ⟨f | n, left⟩
  · rw [change] at result
    cases result
  · exact ((AllOrNothing.update _ _ _).done session n left change).2.1

/-- Initializing a store ends with the change of the password. -/
theorem outside_of_run {hasher : Hasher} {password : String} {session after : Session}
    (done : (Bootstrap.run hasher password).outcome session = (.ok (), after)) :
    after.store.saved = none := by
  rw [Bootstrap.run_eq] at done
  obtain ⟨_, scripted, -, done⟩ := of_outcome_bind done
  obtain ⟨digest, hashed, -, done⟩ := of_outcome_bind done
  exact outside_of_setPassword done

/-- A store that has been initialized has the account of the administrator. -/
theorem directory_of_run {hasher : Hasher} {password : String} {session after : Session}
    (done : (Bootstrap.run hasher password).outcome session = (.ok (), after)) :
    ∃ id digest, Directory after.store [⟨id, Bootstrap.administrator, digest⟩] ∧
      ∃ seeded, Bootstrap.InsertsAdministrator session.store id seeded ∧
        after.store.database.table? sequenceName = seeded.database.table? sequenceName := by
  obtain ⟨seeded, id, digest, seeds, hashed, has, inserts, stored, -⟩ := Bootstrap.of_outcome_ok done
  have kept : after.store.database.table? sequenceName = seeded.database.table? sequenceName := by
    rw [stored]
    split
    · exact Database.table?_replace_other sameName_users_sequence
    · rfl
  have normal : isUsername Bootstrap.administrator = true := rfl
  refine ⟨id, if id = 1 then digest else "", ⟨has, List.pairwise_singleton _ _,
    List.nodup_singleton _, fun account mem => ?_, outside_of_run done⟩, seeded, inserts, kept⟩
  rw [List.mem_singleton.1 mem]
  exact normal

namespace Directory

variable {store : Store} {session : Session} {accounts : List Account}

/-- What does not change the tables or the transaction keeps the directory. -/
theorem of_same {after : Store} (directory : Directory store accounts)
    (database : after.database = store.database) (saved : after.saved = store.saved) :
    Directory after accounts :=
  ⟨database ▸ directory.has, directory.increasing, directory.distinct, directory.normal,
    saved.trans directory.outside⟩

/-- A name that no account has is not taken. -/
theorem any_eq_false {name : String} (free : ∀ account ∈ accounts, account.name ≠ name) :
    (accounts.any fun account => account.name == name) = false := by
  rw [List.any_eq_false]
  intro account mem same
  exact free account mem (by simpa using same)

/-- An account of a new id and a new name is added at the end. -/
theorem grown {account : Account} (directory : Directory store accounts)
    (greatest : ∀ other ∈ accounts, other.id.toInt < account.id.toInt)
    (free : ∀ other ∈ accounts, other.name ≠ account.name)
    (normal : isUsername account.name = true) :
    Directory (Registrar.accepted store accounts account) (accounts ++ [account]) := by
  have has := (hasUsers_enroll directory.has account.row).1
  have last : ∀ other ∈ accounts.map Account.row, other.id.toInt < account.row.id.toInt := by
    intro row mem
    obtain ⟨other, among, rfl⟩ := List.mem_map.1 mem
    exact greatest other among
  rw [insertRow_of_greatest last, ← List.map_singleton, ← List.map_append] at has
  refine ⟨has, ?_, ?_, ?_, directory.outside⟩
  · refine List.pairwise_append.2 ⟨directory.increasing, List.pairwise_singleton _ _, ?_⟩
    intro other mem new same
    rw [List.mem_singleton.1 same]
    exact greatest other mem
  · rw [List.map_append, List.nodup_append]
    refine ⟨directory.distinct, List.nodup_singleton _, ?_⟩
    intro name mem new same
    obtain ⟨other, among, rfl⟩ := List.mem_map.1 mem
    rw [List.mem_singleton.1 same]
    exact free other among
  · intro other mem
    rcases List.mem_append.1 mem with old | new
    · exact directory.normal other old
    · rw [List.mem_singleton.1 new]
      exact normal

/-- What a store takes in has the next id and a new name. -/
theorem of_accept {name digest : String} {id : Int64} (directory : Directory store accounts)
    (taken : accept store accounts name digest = .ok id) :
    id.toInt = max (greatestId accounts) (store.database.counted (usersTable [])) + 1 ∧
      store.database.counted (usersTable []) < id.toInt ∧
      (∀ other ∈ accounts, other.id.toInt < id.toInt) ∧ ∀ other ∈ accounts, other.name ≠ name := by
  obtain ⟨next, least, taken⟩ := bind_eq_ok taken
  have id_eq : next = id ∧ (accounts.any fun account => account.name == name) = false := by
    split at taken
    · cases taken
    · next free =>
      refine ⟨?_, by simpa using free⟩
      split at taken
      · cases checked : store.database.checkReferences
          (store.database.enroll (accounts.map Account.row) (userRow next name digest)) with
        | error problem =>
          rw [checked] at taken
          cases taken
        | ok _ =>
          rw [checked] at taken
          exact Except.ok.inj taken
      · exact Except.ok.inj taken
  obtain ⟨rfl, free⟩ := id_eq
  obtain ⟨above, greatest⟩ := lt_of_nextId directory.increasing least
  refine ⟨toInt_of_nextId least, above, greatest, fun other mem same => ?_⟩
  rw [List.any_eq_false] at free
  exact free other mem (by simpa using same)

/-- An account that a store takes in is added at the end. -/
theorem accepted {account : Account} (directory : Directory store accounts)
    (taken : accept store accounts account.name account.digest = .ok account.id)
    (normal : isUsername account.name = true) :
    Directory (Registrar.accepted store accounts account) (accounts ++ [account]) := by
  obtain ⟨-, -, greatest, free⟩ := directory.of_accept taken
  exact directory.grown greatest free normal

/-- Registering fails with nothing changed, or it adds an account of the normal form of the name and of
a digest of the password without the blanks around it. -/
theorem register_cases (directory : Directory session.store accounts) (hasher : Hasher)
    (given password : String) :
    (∃ f after, (Accounts.register hasher given password).outcome session = (.error f, after) ∧
      after.store = session.store) ∨
    ∃ account after, (Accounts.register hasher given password).outcome session =
        (.ok account.user, after) ∧
      normalizeUsername given = .ok account.name ∧
      hasher.hash (trim password) = .ok account.digest ∧
      accept session.store accounts account.name account.digest = .ok account.id ∧
      after.store = Registrar.accepted session.store accounts account := by
  cases found : Accounts.candidate given password with
  | error f => exact .inl ⟨f, session, outcome_register_of_refused found, rfl⟩
  | ok parts =>
    obtain ⟨name, secret⟩ := parts
    obtain ⟨normal, -, rfl, -⟩ := of_candidate found
    rw [outcome_register found directory.has]
    split
    · exact .inl ⟨_, _, rfl, rfl⟩
    · cases hasher.hash (trim password) with
      | error message => exact .inl ⟨_, _, rfl, rfl⟩
      | ok digest =>
        have asked : Directory (session.afterAsking ⟨takenText, [.text name]⟩).store accounts :=
          directory
        dsimp only
        rw [outcome_enroll _ _ asked.has asked.increasing asked.outside]
        cases taken : accept (session.afterAsking ⟨takenText, [.text name]⟩).store accounts name
          digest with
        | error problem => exact .inl ⟨_, _, rfl, rfl⟩
        | ok id => exact .inr ⟨⟨id, name, digest⟩, _, rfl, normal, rfl, taken, rfl⟩

end Directory

end Registrar
