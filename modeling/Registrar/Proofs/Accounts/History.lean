import Registrar.Proofs.Accounts.Agreement
import Registrar.Proofs.Accounts.Removing

/-!
# Histories of accounts

Users register and are removed, in any order, some of it in vain.  What a caller sees of this tells
what the store keeps: those who have registered and have not been removed, in the order of their
registration, behind the administrator.  No name is there twice, and no id is given twice.
-/

namespace Registrar

open Registrar.Text Registrar.Sql Call

/-- What is done to the accounts. -/
inductive Deed where
  | register (name password : String)
  | remove (id : Int64)

/-- What a caller has seen. -/
structure History where
  session : Session
  /-- Those who have registered, in order. -/
  registered : List User
  /-- Those who have not been removed, in order. -/
  left : List User

/-- What a caller has seen once a registration has come to its end. -/
def History.afterRegistering (history : History) : Except Failure User × Session → History
  | (.ok user, after) => ⟨after, history.registered ++ [user], history.left ++ [user]⟩
  | (.error _, after) => { history with session := after }

/-- What a caller has seen once a removal has come to its end. -/
def History.afterRemoving (history : History) (id : Int64) : Except Failure Nat × Session → History
  | (.ok _, after) =>
    { history with session := after, left := history.left.filter fun user => user.id != some id }
  | (.error _, after) => { history with session := after }

/-- What a caller has seen after one deed more. -/
def Deed.next (hasher : Hasher) (history : History) : Deed → History
  | .register name password =>
    history.afterRegistering ((Accounts.register hasher name password).outcome history.session)
  | .remove id =>
    history.afterRemoving id
      ((Call.delete User.recordType.table (some (.scalar (.integer id)))).outcome history.session)

/-- What a caller has seen after some deeds. -/
def History.run (hasher : Hasher) (history : History) (deeds : List Deed) : History :=
  deeds.foldl (Deed.next hasher) history

/-- What has been seen agrees with the store.  Those who are left are the accounts of the store; the
ids that were given increase from that of the administrator on, and the store remembers the last. -/
structure History.Agrees (history : History) (accounts given : List Account) (last : Int64) :
    Prop where
  directory : Directory history.session.store accounts
  left : history.left = accounts.map Account.user
  increasing : given.Pairwise fun a b => a.id.toInt < b.id.toInt
  remembers : Remembers history.session.store.database last
  among : ∀ account ∈ accounts, account.id.toInt ≤ last.toInt
  greatest : ∀ account ∈ given, account.id.toInt ≤ last.toInt
  reached : history.session.store.Reached

/-- Accounts have the ids behind a certain one, in order, up to another. -/
inductive Numbered : Int64 → List Account → Int64 → Prop
  | nil (last : Int64) : Numbered last [] last
  | cons {last last' : Int64} {account : Account} {accounts : List Account}
    (next : account.id.toInt = last.toInt + 1) (others : Numbered account.id accounts last') :
    Numbered last (account :: accounts) last'

namespace Numbered

variable {first middle last : Int64} {accounts more : List Account}

/-- Accounts that are numbered on are numbered together with those before them. -/
theorem append (begins : Numbered first accounts middle) (goesOn : Numbered middle more last) :
    Numbered first (accounts ++ more) last := by
  induction begins with
  | nil => exact goesOn
  | cons next _ ih => exact .cons next (ih goesOn)

/-- Ids do not decrease. -/
theorem le (numbered : Numbered first accounts last) : first.toInt ≤ last.toInt := by
  induction numbered with
  | nil => exact Int.le_refl _
  | cons next _ ih => omega

/-- The number of accounts tells the last id. -/
theorem toInt_last (numbered : Numbered first accounts last) :
    last.toInt = first.toInt + accounts.length := by
  induction numbered with
  | nil => exact (Int.add_zero _).symm
  | cons next _ ih =>
    rw [List.length_cons]
    omega

/-- The place of an account tells its id. -/
theorem toInt_getElem? (numbered : Numbered first accounts last) {i : Nat} {account : Account}
    (here : accounts[i]? = some account) : account.id.toInt = first.toInt + 1 + i := by
  induction numbered generalizing i with
  | nil => cases here
  | cons next _ ih =>
    cases i with
    | zero =>
      obtain rfl := Option.some.inj here
      simpa using next
    | succ i =>
      have later := ih here
      omega

end Numbered

namespace History.Agrees

variable {history : History} {accounts given : List Account} {last : Int64}

/-- What changes nothing in the store agrees as before. -/
theorem of_same (agrees : history.Agrees accounts given last) {after : Session}
    (same : after.store = history.session.store) :
    History.Agrees { history with session := after } accounts given last :=
  ⟨same ▸ agrees.directory, agrees.left, agrees.increasing, same ▸ agrees.remembers, agrees.among,
    agrees.greatest, same ▸ agrees.reached⟩

/-- A registration adds the last account, with an id greater than all that were given and one more than
the last of them, or it fails with nothing changed. -/
theorem register (agrees : history.Agrees accounts given last) (hasher : Hasher)
    (name password : String) :
    (∃ session, (Deed.register name password).next hasher history = { history with session } ∧
      session.store = history.session.store) ∨
    ∃ account session, (Deed.register name password).next hasher history =
        ⟨session, history.registered ++ [account.user], history.left ++ [account.user]⟩ ∧
      History.Agrees ⟨session, history.registered ++ [account.user], history.left ++ [account.user]⟩
        (accounts ++ [account]) (given ++ [account]) account.id ∧
      (0 ≤ last.toInt → account.id.toInt = last.toInt + 1) := by
  have seen : (Deed.register name password).next hasher history =
      history.afterRegistering
        ((Accounts.register hasher name password).outcome history.session) := by
    rw [Deed.next]
  rw [seen]
  rcases agrees.directory.register_cases hasher name password with ⟨f, after, failed, same⟩ |
    ⟨account, after, done, normal, -, taken, stored⟩
  · rw [failed]
    exact .inl ⟨after, rfl, same⟩
  obtain ⟨next, above, greatest, -⟩ := agrees.directory.of_accept taken
  have fresh : last.toInt < account.id.toInt := agrees.remembers.last ▸ above
  have reached : after.store.Reached := by
    have reaches := (Reaches.register hasher name password).reached _ agrees.reached
    rwa [done] at reaches
  obtain ⟨sequence, there⟩ := Option.isSome_iff_exists.1 agrees.remembers.sequence
  have remembers := remembers_enroll there (accounts.map Account.row) account.row above
  have own : ∀ other ∈ [account], other.id.toInt ≤ account.id.toInt := fun other mem =>
    Int.le_of_eq (congrArg (fun account => account.id.toInt) (List.mem_singleton.1 mem))
  rw [done]
  have exact (least : 0 ≤ last.toInt) : account.id.toInt = last.toInt + 1 := by
    have greatest := greatestId_le least agrees.among
    have counted := agrees.remembers.last
    omega
  refine .inr ⟨account, after, rfl, ?_, exact⟩
  refine ⟨?_, ?_, ?_, ?_, ?_, ?_, reached⟩
  · show Directory after.store _
    rw [stored]
    exact agrees.directory.accepted taken (isUsername_of_normalize normal)
  · rw [List.map_append, ← agrees.left]
    rfl
  · refine List.pairwise_append.2 ⟨agrees.increasing, List.pairwise_singleton _ _, ?_⟩
    intro other mem new same
    rw [List.mem_singleton.1 same]
    exact Int.lt_of_le_of_lt (agrees.greatest other mem) fresh
  · show Remembers after.store.database _
    rw [stored]
    exact remembers
  · intro other mem
    rcases List.mem_append.1 mem with old | new
    · exact Int.le_of_lt (greatest other old)
    · exact own other new
  · intro other mem
    rcases List.mem_append.1 mem with old | new
    · exact Int.le_of_lt (Int.lt_of_le_of_lt (agrees.greatest other old) fresh)
    · exact own other new

/-- A removal takes away the account of the id, or it fails with nothing changed. -/
theorem remove (agrees : history.Agrees accounts given last) (hasher : Hasher) (id : Int64) :
    (∃ session, (Deed.remove id).next hasher history = { history with session } ∧
      session.store = history.session.store) ∨
    ∃ session, (Deed.remove id).next hasher history =
        { history with session, left := history.left.filter fun user => user.id != some id } ∧
      History.Agrees
        { history with session, left := history.left.filter fun user => user.id != some id }
        (accounts.filter fun account => account.id != id) given last := by
  have keeps : KeepsUsers (accounts.map Account.row)
      (history.session.store.database.table? sequenceName) history.session.store.database :=
    ⟨agrees.directory.has, rfl, unreferring_of_sound agrees.reached.sound.database⟩
  have seen : (Deed.remove id).next hasher history =
      history.afterRemoving id
        ((Call.delete "users" (some (.scalar (.integer id)))).outcome history.session) := by
    rw [Deed.next]
    rfl
  rw [seen]
  rcases delete_cases keeps agrees.directory.outside id with ⟨f, after, failed, same⟩ |
    ⟨n, after, done, outside, kept⟩
  · rw [failed]
    exact .inl ⟨after, rfl, same⟩
  have reached : after.store.Reached := by
    have reaches := (Reaches.delete "users" (some (.scalar (.integer id)))).reached _ agrees.reached
    rwa [done] at reaches
  have fewer : (accounts.filter fun account => account.id != id).Sublist accounts :=
    List.filter_sublist
  rw [done]
  refine .inr ⟨after, rfl, ?_⟩
  refine ⟨⟨kept.has, agrees.directory.increasing.sublist fewer,
    (fewer.map Account.name).nodup agrees.directory.distinct,
    fun account mem => agrees.directory.normal account (fewer.subset mem), outside⟩, ?_,
    agrees.increasing, agrees.remembers.congr kept.sequence,
    fun account mem => agrees.among account (fewer.subset mem), agrees.greatest, reached⟩
  show history.left.filter _ = _
  rw [agrees.left, List.filter_map]
  refine congrArg (List.map Account.user) (List.filter_congr fun account _ => ?_)
  rw [Bool.eq_iff_iff, Function.comp_apply, bne_iff_ne, bne_iff_ne]
  exact not_congr Option.some_inj

/-- After one deed more, what has been seen agrees with the store again; if somebody has registered, it
was with the next id. -/
theorem next (agrees : history.Agrees accounts given last) (hasher : Hasher) (deed : Deed) :
    ∃ accounts' more last', (deed.next hasher history).Agrees accounts' (given ++ more) last' ∧
      (deed.next hasher history).registered = history.registered ++ more.map Account.user ∧
      (0 ≤ last.toInt → Numbered last more last') := by
  have none : given ++ [] = given := List.append_nil given
  have unseen : history.registered ++ [].map Account.user = history.registered :=
    List.append_nil history.registered
  cases deed with
  | register name password =>
    rcases agrees.register hasher name password with ⟨session, seen, same⟩ |
      ⟨account, session, seen, grown, exact⟩
    · refine ⟨accounts, [], last, ?_, ?_, fun _ => .nil last⟩
      · rw [seen, none]
        exact agrees.of_same same
      · rw [seen, unseen]
    · refine ⟨accounts ++ [account], [account], account.id, ?_, ?_, fun least =>
        .cons (exact least) (.nil _)⟩
      · rw [seen]
        exact grown
      · rw [seen]
        rfl
  | remove id =>
    rcases agrees.remove hasher id with ⟨session, seen, same⟩ | ⟨session, seen, fewer⟩
    · refine ⟨accounts, [], last, ?_, ?_, fun _ => .nil last⟩
      · rw [seen, none]
        exact agrees.of_same same
      · rw [seen, unseen]
    · refine ⟨accounts.filter fun account => account.id != id, [], last, ?_, ?_, fun _ => .nil last⟩
      · rw [seen, none]
        exact fewer
      · rw [seen, unseen]

/-- After any deeds, what has been seen agrees with the store, and those who have registered have the
ids behind the last one that was given, in order. -/
theorem run (hasher : Hasher) (deeds : List Deed) {history : History} {accounts given : List Account}
    {last : Int64} (agrees : history.Agrees accounts given last) :
    ∃ accounts' more last', (history.run hasher deeds).Agrees accounts' (given ++ more) last' ∧
      (history.run hasher deeds).registered = history.registered ++ more.map Account.user ∧
      (0 ≤ last.toInt → Numbered last more last') := by
  induction deeds generalizing history accounts given last with
  | nil =>
    refine ⟨accounts, [], last, ?_, ?_, fun _ => .nil last⟩
    · rw [List.append_nil]
      exact agrees
    · exact (List.append_nil history.registered).symm
  | cons deed deeds ih =>
    have first : history.run hasher (deed :: deeds) = (deed.next hasher history).run hasher deeds :=
      List.foldl_cons
    obtain ⟨between, some_, last', agrees', seen, begins⟩ := agrees.next hasher deed
    obtain ⟨accounts', more, last'', now, registered, goesOn⟩ := ih agrees'
    rw [List.append_assoc] at now
    refine ⟨accounts', some_ ++ more, last'', ?_, ?_, fun least =>
      (begins least).append (goesOn (Int.le_trans least (begins least).le))⟩
    · rw [first]
      exact now
    · rw [first, registered, seen, List.map_append, List.append_assoc]

end History.Agrees

namespace Directory

variable {session : Session} {accounts : List Account} {hasher : Hasher}

/-- Registering reports a user of the same name exactly if the store has one. -/
theorem register_duplicate (directory : Directory session.store accounts) {given password name : String}
    {digest : String} (normal : normalizeUsername given = .ok name)
    (filled : (trim password).isEmpty = false) (hashed : hasher.hash (trim password) = .ok digest) :
    (∃ f, ((Accounts.register hasher given password).outcome session).1 = .error f ∧
      f.kind = .duplicate) ↔ name ∈ accounts.map Account.name := by
  have found : Accounts.candidate given password = .ok (name, trim password) := by
    rw [Accounts.candidate, normal]
    simp only [bind, Except.bind, filled, Bool.false_eq_true, if_false]
  rw [outcome_register found directory.has]
  cases taken : accounts.any fun account => account.name == name with
  | true =>
    obtain ⟨account, mem, same⟩ := List.any_eq_true.1 taken
    have named : name ∈ accounts.map Account.name :=
      List.mem_map.2 ⟨account, mem, by simpa using same⟩
    exact iff_of_true ⟨.userExists name, rfl, rfl⟩ named
  | false =>
    have unnamed : name ∉ accounts.map Account.name := by
      intro mem
      obtain ⟨account, among, same⟩ := List.mem_map.1 mem
      exact List.any_eq_false.1 taken account among (by simpa using same)
    refine iff_of_false ?_ unnamed
    rintro ⟨f, failed, duplicate⟩
    have asked : Directory (session.afterAsking ⟨takenText, [.text name]⟩).store accounts := directory
    simp only [Bool.false_eq_true, if_false, hashed,
      outcome_enroll _ _ asked.has asked.increasing asked.outside] at failed
    cases taken' : accept (session.afterAsking ⟨takenText, [.text name]⟩).store accounts name digest with
    | ok id =>
      rw [taken'] at failed
      cases failed
    | error problem =>
      rw [taken'] at failed
      simp only [isRepeated_of_accept taken taken', Bool.false_eq_true, if_false] at failed
      rw [← Except.error.inj failed] at duplicate
      cases duplicate

/-- Registering fails with nothing changed. -/
theorem store_of_register_error (directory : Directory session.store accounts)
    {given password : String} {f : Failure} {after : Session}
    (failed : (Accounts.register hasher given password).outcome session = (.error f, after)) :
    after.store = session.store := by
  rcases directory.register_cases hasher given password with ⟨g, left, outcome, same⟩ |
    ⟨account, left, outcome, -⟩
  · rw [outcome] at failed
    rw [← (Prod.mk.inj failed).2]
    exact same
  · rw [outcome] at failed
    cases (Prod.mk.inj failed).1

end Directory

/-- Where the store has been initialized, the administrator is the first of all who are seen. -/
theorem History.agrees_of_run {hasher : Hasher} {password : String} {session start : Session}
    (reached : session.store.Reached)
    (initialized : (Bootstrap.run hasher password).outcome session = (.ok (), start)) :
    ∃ admin : Account, admin.name = Bootstrap.administrator ∧
      (History.mk start [] [admin.user]).Agrees [admin] [admin] admin.id := by
  obtain ⟨id, digest, directory, remembers, -⟩ := remembers_of_run reached.sound initialized
  let admin : Account := ⟨id, Bootstrap.administrator, digest⟩
  have later : start.store.Reached := by
    have reaches := (Reaches.bootstrap hasher password).reached _ reached
    rwa [initialized] at reaches
  have only : ∀ account ∈ [admin], account.id.toInt ≤ id.toInt := fun account mem =>
    Int.le_of_eq (congrArg (fun account => account.id.toInt) (List.mem_singleton.1 mem))
  exact ⟨admin, rfl, directory, rfl, List.pairwise_singleton _ _, remembers, only, only, later⟩

/-- From a store that has been initialized on, whatever users register and are removed: the names that
are stored are different and their own normal forms; the ids that are given increase, from that of the
administrator on, so that none is given again; all names are told in the order of registration, the
administrator in front unless removed; and registering reports a user of the same name exactly if
there is one in the store, and changes nothing where it fails. -/
theorem accounts_stay_in_order {hasher : Hasher} {password : String} {session start : Session}
    (reached : session.store.Reached)
    (initialized : (Bootstrap.run hasher password).outcome session = (.ok (), start)) :
    ∃ admin : Account, admin.name = Bootstrap.administrator ∧ Directory start.store [admin] ∧
      ∀ deeds, let now := (History.mk start [] [admin.user]).run hasher deeds
      ∃ accounts given : List Account,
        now.session.store.database.HasUsers (accounts.map Account.row) ∧
        now.left = accounts.map Account.user ∧ now.registered = given.map Account.user ∧
        (accounts.map Account.name).Nodup ∧
        (∀ account ∈ accounts, normalizeUsername account.name = .ok account.name) ∧
        ((admin :: given).Pairwise fun a b => a.id.toInt < b.id.toInt) ∧
        (Accounts.usernames.outcome now.session).1 = .ok (now.left.map User.name) ∧
        (∀ other secret name digest, normalizeUsername other = .ok name →
          (trim secret).isEmpty = false → hasher.hash (trim secret) = .ok digest →
          ((∃ f, ((Accounts.register hasher other secret).outcome now.session).1 = .error f ∧
            f.kind = .duplicate) ↔ name ∈ accounts.map Account.name)) ∧
        ∀ other secret f after,
          (Accounts.register hasher other secret).outcome now.session = (.error f, after) →
            after.store = now.session.store := by
  obtain ⟨admin, named, agrees⟩ := History.agrees_of_run reached initialized
  refine ⟨admin, named, agrees.directory, fun deeds => ?_⟩
  obtain ⟨accounts, given, last, now, registered, -⟩ := agrees.run hasher deeds
  have names : (accounts.map Account.user).map User.name = accounts.map Account.name := by
    rw [List.map_map]
    rfl
  refine ⟨accounts, given, now.directory.has, now.left, registered, now.directory.distinct,
    fun account mem => normalizeUsername_of_isUsername (now.directory.normal account mem),
    now.increasing, ?_, ?_, ?_⟩
  · rw [outcome_usernames now.directory.has now.directory.increasing, now.left, names]
  · exact fun other secret name digest normal filled hashed =>
      now.directory.register_duplicate normal filled hashed
  · exact fun other secret f after failed => now.directory.store_of_register_error failed

/-- Whoever has registered is left for now. -/
theorem left_afterRegistering (history : History) {outcome : Except Failure User × Session}
    {user : User} (done : outcome.1 = .ok user) :
    (history.afterRegistering outcome).left = history.left ++ [user] := by
  obtain ⟨result, after⟩ := outcome
  obtain rfl : result = .ok user := done
  rfl

/-- In a new store, a user who registers is told behind the administrator. -/
theorem accounts_stay_in_order_worf :
    ∃ start admin, (Bootstrap.run marker "secret").outcome ⟨.opened .empty, []⟩ = (.ok (), start) ∧
      (Accounts.usernames.outcome ((History.mk start [] [admin]).run marker
        [.register " Worf " "honor "]).session).1 = .ok ["admin", "worf"] := by
  obtain ⟨log, initialized⟩ := outcome_run_opened
  obtain ⟨admin, named, -, always⟩ := accounts_stay_in_order .opened initialized
  obtain ⟨accounts, given, -, -, -, -, -, -, told, -⟩ := always [.register " Worf " "honor "]
  have left : ((History.mk ⟨initializedStore, log⟩ [] [admin.user]).run marker
      [.register " Worf " "honor "]).left = [admin.user] ++ [⟨some 2, "worf", "hashed:honor"⟩] := by
    rw [History.run, List.foldl_cons, List.foldl_nil, Deed.next]
    exact left_afterRegistering _ (outcome_register_worf log)
  have names : admin.user.name = "admin" := named
  rw [left, List.map_append, List.map_singleton, List.map_singleton, names] at told
  exact ⟨_, _, initialized, told⟩

end Registrar
