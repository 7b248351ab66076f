import Registrar.Proofs.Accounts.History
import Registrar.Proofs.Counters

/-!
# Starting over

What making the users anew leaves depends on nothing that there was of the users: they are the
administrator alone, with the first id, and the ids of those who register count on from there.  Other
tables stay as they were unless they may follow the users, by references that act when rows are removed;
and making the users anew once more leaves the same store.
-/

namespace Registrar

open Registrar.Text Registrar.Sql Registrar.Sql.Database Call

namespace Sql.Database

section Others

variable {db after emptied : Database} {target other name : String} {t : Sql.Table} {enforcing : Bool}
  {env : Env}

/-- What may follow a table may follow whatever has the same name. -/
theorem MayFollow.congr_target (follows : db.MayFollow target name)
    (same : sameName target other = true) : db.MayFollow other name := by
  induction follows with
  | itself alike => exact .itself (by rw [← sameName_congr_right same, alike])
  | refers among own acts _ named ih => exact .refers among own acts ih named

/-- No other table refers to the users. -/
def Unreferred (db : Database) : Prop :=
  ∀ t ∈ db.tables, isOtherName t.name = true →
    ∀ fk ∈ t.foreignKeys, sameName fk.reference.table "users" = false

/-- The table of the greatest ids does not follow the users. -/
theorem not_mayFollow_sequence (sound : db.Sound) : ¬ db.MayFollow "users" sequenceName := by
  intro follows
  rcases follows.cases_name with same | ⟨t, among, refers, same⟩
  · rw [sameName_comm, sameName_users_sequence] at same
    cases same
  · rw [sameName_comm] at same
    exact refers (unreferring_of_sound sound t among same)

/-- Where no other table refers to the users, none follows them. -/
theorem Unreferred.of_mayFollow (unreferred : db.Unreferred) (sound : db.Sound)
    (follows : db.MayFollow "users" name) : isOtherName name = false := by
  have users (name : String) (follows : db.MayFollow "users" name) : sameName name "users" = true := by
    induction follows with
    | itself same => exact same
    | @refers t fk name among own acts _ named ih =>
      rw [sameName_congr named]
      by_contra notUsers
      rw [Bool.not_eq_true] at notUsers
      have notCounter : sameName t.name sequenceName = false := by
        rw [Bool.eq_false_iff]
        exact fun counter => List.ne_nil_of_mem own (unreferring_of_sound sound t among counter)
      have isOther : isOtherName t.name = true := by
        rw [isOtherName, notUsers, notCounter]
        rfl
      rw [unreferred t among isOther fk own] at ih
      cases ih
  rw [isOtherName, users name follows]
  rfl

/-- What the others refer to is the same where they are. -/
theorem Unreferred.of_others (unreferred : db.Unreferred) (same : after.others = db.others) :
    after.Unreferred := by
  intro t mem isOther
  obtain ⟨item, among, shown⟩ := List.mem_filterMap.1 mem
  cases item with
  | view v => cases shown
  | table u =>
    obtain rfl := Option.some.inj shown
    have there : Item.table u ∈ after.others := List.mem_filter.2 ⟨among, isOther⟩
    rw [same] at there
    exact unreferred u (List.mem_filterMap.2 ⟨_, (List.mem_filter.1 there).1, rfl⟩) isOther

/-- A name finds the same where what has this name is the same. -/
theorem find?_of_kept (kept : after.items.filter (fun item => sameName item.name name) =
    db.items.filter fun item => sameName item.name name) : after.find? name = db.find? name := by
  rw [find?, find?, ← List.head?_filter, ← List.head?_filter, kept]

/-- Another name than that of the users finds the same where the others are the same. -/
theorem find?_of_others (same : after.others = db.others) (isOther : isOtherName name = true) :
    after.find? name = db.find? name := by
  have among (db : Database) :
      db.find? name = db.others.find? fun item => sameName item.name name := by
    rw [find?, others, List.find?_filter]
    refine congrArg db.items.find? (funext fun item => ?_)
    cases named : sameName item.name name with
    | false => rw [decide_eq_false (by simp)]
    | true => rw [isOtherName_congr named, isOther]; rfl
  rw [among, among, same]

/-- Emptying the users leaves what may not follow them. -/
theorem find?_emptied (same : sameName t.name "users" = true)
    (empties : db.Empties enforcing env t emptied)
    (free : enforcing = false ∨ ¬ db.MayFollow "users" name) : emptied.find? name = db.find? name := by
  rcases empties with rfl | ⟨on, -, removed, removes⟩
  · rfl
  rcases free with off | free
  · rw [off] at on
    cases on
  have spares : db.Spares t.name fun other => sameName other name := by
    refine ⟨fun alike => sameName_congr alike name, fun other follows => ?_⟩
    rw [Bool.eq_false_iff]
    intro named
    rw [sameName_comm] at named
    exact free ((follows.congr named).congr_target same)
  exact find?_of_kept (kept_removeAll spares removes)

/-- Emptying the users leaves the others where these do not refer to them. -/
theorem others_emptied (same : sameName t.name "users" = true)
    (empties : db.Empties enforcing env t emptied)
    (unreferred : db.Unreferred) (sound : db.Sound) : emptied.others = db.others := by
  rcases empties with rfl | ⟨-, -, removed, removes⟩
  · rfl
  have spares : db.Spares t.name isOtherName :=
    ⟨isOtherName_congr, fun _ follows => unreferred.of_mayFollow sound (follows.congr_target same)⟩
  exact kept_removeAll spares removes

end Others

end Sql.Database

namespace Bootstrap

section Clearing

variable {s cleared : Store} {name : String}

/-- Dropping the old users leaves what may not follow them. -/
theorem find?_of_dropping (done : s.carry dropping dropStatement = .ok cleared)
    (isOther : isOtherName name = true)
    (free : s.enforcing = false ∨ ¬ s.database.MayFollow "users" name) :
    cleared.database.find? name = s.database.find? name := by
  rcases carry_dropping_cases done with ⟨-, rfl⟩ | ⟨t, emptied, here, empties, rfl⟩
  · rfl
  have same := name_of_table? here
  exact (find?_of_others (others_forget same) isOther).trans (find?_emptied same empties free)

/-- Dropping the old users leaves the others where these do not refer to them. -/
theorem others_of_dropping (done : s.carry dropping dropStatement = .ok cleared)
    (unreferred : s.database.Unreferred) (sound : s.database.Sound) :
    cleared.database.others = s.database.others := by
  rcases carry_dropping_cases done with ⟨-, rfl⟩ | ⟨t, emptied, here, empties, rfl⟩
  · rfl
  have same := name_of_table? here
  exact (others_forget same).trans (others_emptied same empties unreferred sound)

/-- Emptying the users leaves the counters. -/
theorem counters_emptied {t : Sql.Table} {emptied : Database} (sound : s.database.Sound)
    (same : sameName t.name "users" = true)
    (empties : s.database.Empties s.enforcing (s.env []) t emptied) :
    emptied.counters = s.database.counters := by
  refine counters_congr ?_
  rw [table?, table?, find?_emptied same empties (.inr (not_mayFollow_sequence sound))]

/-- Dropping the old users leaves the counters of other tables. -/
theorem otherCounts_of_dropping (done : s.carry dropping dropStatement = .ok cleared)
    (sound : s.database.Sound) : cleared.database.otherCounts = s.database.otherCounts := by
  rcases carry_dropping_cases done with ⟨-, rfl⟩ | ⟨t, emptied, here, empties, rfl⟩
  · rfl
  have same := name_of_table? here
  have kept := counters_emptied sound same empties
  rw [otherCounts_forget same, otherCounts, kept, otherCounts]

/-- No counter of the users is left where the store counts them from the first. -/
theorem uncounted_of_dropping (done : s.carry dropping dropStatement = .ok cleared)
    (sound : s.database.Sound) (anew : s.database.StartsOver) :
    ∀ row ∈ cleared.database.counters, row.cells.head? ≠ some (.text "users") := by
  rcases carry_dropping_cases done with ⟨absent, rfl⟩ | ⟨t, emptied, here, empties, rfl⟩
  · rcases anew with ⟨t, found, -⟩ | uncounted
    · rw [find?_of_table? found] at absent
      cases absent
    · exact uncounted
  intro row mem
  have same := name_of_table? here
  have other : sameName sequenceName t.name = false := by
    rw [sameName_congr_right same, sameName_comm, sameName_users_sequence]
  rw [counters_forget other, counters_emptied sound same empties, List.mem_filter] at mem
  obtain ⟨old, kept⟩ := mem
  rcases anew with ⟨u, found, named⟩ | uncounted
  · obtain rfl := Option.some.inj (found.symm.trans here)
    rw [named] at kept
    simpa using kept
  · exact uncounted row old

end Clearing

section Again

variable {a b a' : Session} {left right : Store} {hasher : Hasher} {password : String}

/-- Inserting the administrator depends on the tables, the settings and the transaction only. -/
theorem carry_seeding_congr (has : right.database.HasUsers []) (database : left.database = right.database)
    (enforcing : left.enforcing = right.enforcing) (saved : left.saved = right.saved) :
    left.carry seeding insertStatement = right.carry seeding insertStatement := by
  have values : resolveRows ⟨[], [], false, true⟩
      [[.literal (.text "admin"), .literal (.text "")]] =
        .ok [[.literal (.text "admin"), .literal (.text "")]] := rfl
  -- what the connection remembers is in the environment, but no value asks for it
  have carried (s : Store) (has : s.database.HasUsers []) :
      s.carry seeding insertStatement =
        match (do
          let id ← nextId (usersTable []) (s.database.counted (usersTable []))
          if s.enforcing then s.database.checkReferences (s.database.enroll [] (userRow id "admin" ""))
          else pure ()
          .ok id : Except Problem Int64) with
        | .error problem => .error problem.bare
        | .ok id =>
          .ok ⟨s.database.enroll [] (userRow id "admin" ""), s.saved, s.enforcing, id, 1⟩ := by
    have ran : (userInsertion (.literal (.text "admin")) (.literal (.text ""))).run s.database
        s.enforcing (s.env []) = _ := run_userInsertion has s.enforcing rfl rfl
    simp only [check_userRow, List.any_nil, Bool.false_eq_true, if_false] at ran
    simp only [Store.carry, Store.prepare, insertStatement, planInsert_user has s.enforcing values,
      bind, Except.bind, Store.run, ran]
    cases nextId (usersTable []) (s.database.counted (usersTable [])) with
    | error problem => rfl
    | ok id =>
      by_cases on : s.enforcing = true
      · simp only [if_pos on]
        cases s.database.checkReferences (s.database.enroll [] (userRow id "admin" "")) <;> rfl
      · simp only [if_neg on]
        rfl
  rw [carried left (database ▸ has), carried right has, database, enforcing, saved]

/-- Where dropping the old users leaves the same, making the users anew ends with the same store. -/
theorem run_of_same (dropsLeft : a.store.carry dropping dropStatement = .ok left)
    (dropsRight : b.store.carry dropping dropStatement = .ok right)
    (database : (created left).database = (created right).database)
    (enforcing : left.enforcing = right.enforcing) (saved : left.saved = right.saved)
    (done : (run hasher password).outcome a = (.ok (), a')) :
    ∃ b', (run hasher password).outcome b = (.ok (), b') ∧ b'.store = a'.store := by
  rcases script_cases a.store with ⟨e, script⟩ | ⟨_, e, -, script⟩ | ⟨seeded, id, -, script, -⟩
  · cases (Prod.mk.inj ((outcome_run_of_script script).symm.trans done)).1
  · cases (Prod.mk.inj ((outcome_run_of_script script).symm.trans done)).1
  cases hashed : hasher.hash password with
  | error message => cases (Prod.mk.inj ((outcome_run_of_hash script hashed).symm.trans done)).1
  | ok digest =>
    obtain ⟨cleared, drops, seeds⟩ := carries_of_script script
    obtain rfl := Except.ok.inj (dropsLeft.symm.trans drops)
    have unnamed := (clears_of_carry dropsRight).unnamed
    rw [carry_seeding_congr (hasUsers_created unnamed) database enforcing saved] at seeds
    have scripted := script_of_carry dropsRight (carry_usersDeclaration unnamed) seeds
    have changed := (outcome_run_of_digest script hashed).symm.trans done
    rw [outcome_setPassword] at changed
    obtain ⟨result, rfl⟩ := Prod.mk.inj changed
    have again := (outcome_run_of_digest scripted hashed).trans (outcome_setPassword digest _)
    dsimp only at result again
    rw [result] at again
    exact ⟨_, again, rfl⟩

end Again

section Exactly

variable {cleared : Store} {sequence : Sql.Table}

/-- Taking the administrator in adds the table of users, and their counter where there is none. -/
theorem enroll_created (unnamed : cleared.database.find? "users" = none)
    (found : cleared.database.withSequence.table? sequenceName = some sequence)
    (uncounted : ∀ row ∈ sequence.rows, row.cells.head? ≠ some (.text "users")) (row : Sql.Row) :
    ∃ counter : Sql.Row, counter.cells.head? = some (.text "users") ∧
      (created cleared).database.enroll [] row =
        (cleared.database.withSequence.replace
          { sequence with rows := sequence.rows ++ [counter] }).add (.table (usersTable [row])) := by
  have free := unnamed_withSequence unnamed
  have own : sameName (Item.table (usersTable [])).name (usersTable [row]).name = true :=
    beq_self_eq_true _
  have other : sameName (Item.table (usersTable [row])).name sequence.name = false := by
    rw [sameName_comm]
    exact sequence_ne_users found
  obtain ⟨counted, enrolled⟩ : ∃ counted, (created cleared).database.enroll [] row =
      (cleared.database.withSequence.add (.table (usersTable [row]))).remember (usersTable [])
        counted := by
    refine ⟨_, congrArg (fun db => remember db (usersTable []) _) ?_⟩
    rw [created_database]
    exact replace_add_own free own
  have put : (cleared.database.withSequence.add (.table (usersTable [row]))).table? sequenceName =
      some sequence := by
    rw [table?, find?_add, find?_of_table? found]
    rfl
  obtain ⟨new, remembered⟩ := remember_eq put (usersTable []) counted
  have first : ∀ row ∈ sequence.rows, row.cells.head? ≠ some (.text (usersTable []).name) := uncounted
  rw [recount_new first] at remembered
  refine ⟨⟨new, [.text "users", .integer (Int64.ofInt counted)]⟩, rfl,
    enrolled.trans (remembered.trans (replace_add_other ?_))⟩
  exact other

/-- Once the administrator has been taken in where no users were counted, forgetting them leads back to
what there was before. -/
theorem forget_enrolled (distinct : cleared.database.withSequence.Distinct)
    (unnamed : cleared.database.find? "users" = none)
    (found : cleared.database.withSequence.table? sequenceName = some sequence)
    (uncounted : ∀ row ∈ sequence.rows, row.cells.head? ≠ some (.text "users")) (row new : Sql.Row) :
    (((created cleared).database.enroll [] row).replace (usersTable [new])).forget (usersTable [new]) =
      cleared.database.withSequence := by
  obtain ⟨counter, own, enrolled⟩ := enroll_created unnamed found uncounted row
  have users : sameName (Item.table (usersTable [row])).name (usersTable [new]).name = true :=
    beq_self_eq_true _
  have free := unnamed_withSequence unnamed
  have other : sameName sequence.name "users" = false := sequence_ne_users found
  have put : ∀ item ∈ (cleared.database.withSequence.replace
      { sequence with rows := sequence.rows ++ [counter] }).items,
      sameName item.name (usersTable [new]).name = false := unnamed_replace other free
  rw [enrolled, replace_add_own put users]
  exact forget_added distinct found free uncounted own (beq_self_eq_true _)

/-- Taking the administrator in leaves the others. -/
theorem others_seeded (unnamed : cleared.database.find? "users" = none) (row new : Sql.Row) :
    (((created cleared).database.enroll [] row).replace (usersTable [new])).others =
      cleared.database.others := by
  have has := hasUsers_created unnamed
  rw [others_replace _ isOtherName_users, (hasUsers_enroll has row).2, others_created]

/-- Taking the administrator in leaves the counters of other tables. -/
theorem otherCounts_seeded (cleared : Store) (row new : Sql.Row) :
    (((created cleared).database.enroll [] row).replace (usersTable [new])).otherCounts =
      cleared.database.otherCounts := by
  have put (db : Database) (row : Sql.Row) :
      (db.replace (usersTable [row])).counters = db.counters :=
    counters_congr (table?_replace_other sameName_users_sequence)
  have made : (created cleared).database.counters = cleared.database.counters := by
    have kept : (created cleared).database.table? sequenceName =
        cleared.database.withSequence.table? sequenceName := by
      rw [created_database, table?, find?_add, table?]
      have other : sameName (Item.table (usersTable [])).name sequenceName = false :=
        sameName_users_sequence
      rw [other, if_neg Bool.false_ne_true, Option.or_none]
    rw [counters_congr kept, counters_withSequence]
  calc
    _ = ((created cleared).database.enroll [] row).otherCounts := by rw [otherCounts, put, otherCounts]
    _ = ((created cleared).database.replace (usersTable [row])).otherCounts :=
      otherCounts_remember (beq_self_eq_true _) _
    _ = cleared.database.otherCounts := by rw [otherCounts, put, made, otherCounts]

/-- The table of the greatest ids is made under a new name. -/
theorem distinct_withSequence {db : Database} (distinct : db.Distinct) : db.withSequence.Distinct := by
  unfold withSequence
  split
  · next missing => exact distinct.add (Option.isNone_iff_eq_none.1 missing)
  · exact distinct

end Exactly

section Running

variable {session after : Session} {hasher : Hasher} {password : String}

/-- Where users are counted from the first, making them anew takes in the administrator with the first
id where the old users were dropped, and sets the password. -/
theorem of_run_over (reached : session.store.Reached) (anew : session.store.database.StartsOver)
    (done : (run hasher password).outcome session = (.ok (), after)) :
    ∃ cleared digest, session.store.carry dropping dropStatement = .ok cleared ∧
      hasher.hash password = .ok digest ∧
      after.store.database.HasUsers [userRow 1 administrator digest] ∧
      after.store.database = ((created cleared).database.enroll []
        (userRow 1 administrator "")).replace (usersTable [userRow 1 administrator digest]) ∧
      session.store.saved = none ∧ after.store.enforcing = session.store.enforcing := by
  obtain ⟨seeded, id, digest, -, hashed, has, ⟨cleared, dropped, next, enrolled⟩, stored, outside,
    enforcing⟩ := of_outcome_ok done
  have uncounted := uncounted_of_dropping dropped reached.sound.database anew
  obtain rfl : id = 1 := by
    have none : cleared.database.counted (usersTable []) ≤ 0 :=
      Int.le_of_eq (counted_of_uncounted uncounted)
    exact (Except.ok.inj ((nextId_users none).symm.trans next)).symm
  rw [if_pos rfl] at has stored
  rw [enrolled] at stored
  exact ⟨cleared, digest, dropped, hashed, has, stored, outside, enforcing⟩

/-- The users are dropped where nothing refers to them. -/
theorem carry_dropping_users {s : Store} {rows : List Sql.Row} (has : s.database.HasUsers rows)
    (unreferred : s.database.referencesTo "users" = []) :
    s.carry dropping dropStatement = .ok { s with database := s.database.forget (usersTable rows) } := by
  have droppable : isReservedName (Item.table (usersTable rows)).name = false := by
    show isReservedName "users" = false
    decide
  have means : s.prepare dropping dropStatement = .ok (.drop (usersTable rows)) := by
    show s.prepareDrop false true "users" = _
    rw [Store.prepareDrop, has.find?]
    simp only [droppable, Bool.false_eq_true, if_false]
  have unreferred : s.database.referencesTo (usersTable rows).name = [] := unreferred
  have drops : s.database.dropTable s.enforcing (s.env []) (usersTable rows) =
      .ok (s.database.forget (usersTable rows)) := by
    rw [Database.dropTable, unreferred, List.isEmpty_nil, Bool.not_true, Bool.and_false]
    rfl
  rw [Store.carry, means]
  simp only [Store.run, drops]
  rfl

/-- Nothing refers to the new users where no other table does. -/
theorem referencesTo_users {db : Database} {rows : List Sql.Row} (has : db.HasUsers rows)
    (sound : db.Sound) (unreferred : db.Unreferred) : db.referencesTo "users" = [] := by
  refine List.eq_nil_iff_forall_not_mem.2 fun entry mem => ?_
  obtain ⟨among, own⟩ := of_mem_referencesTo mem
  have keeps : KeepsUsers rows (db.table? sequenceName) db := ⟨has, rfl, unreferring_of_sound sound⟩
  have isOther := keeps.isOtherName_of_referring among (List.ne_nil_of_mem own)
  have refers := sameName_of_mem_referencesTo mem
  rw [unreferred entry.1 among isOther entry.2 own] at refers
  cases refers

/-- Making the users anew once more leaves the same store. -/
theorem run_again (reached : session.store.Reached) (anew : session.store.database.StartsOver)
    (unreferred : session.store.database.Unreferred)
    (done : (run hasher password).outcome session = (.ok (), after)) :
    ∃ again, (run hasher password).outcome after = (.ok (), again) ∧ again.store = after.store := by
  obtain ⟨cleared, digest, dropped, -, has, stored, outside, enforcing⟩ :=
    of_run_over reached anew done
  have later : after.store.Reached := by
    have reaches := (Reaches.bootstrap hasher password).reached _ reached
    rwa [done] at reaches
  have clears := clears_of_carry dropped
  have reachedCleared := reached.carry dropped
  obtain ⟨sequence, found⟩ := sequence_withSequence reachedCleared.sound.database
  have uncounted := uncounted_of_dropping dropped reached.sound.database anew
  rw [← counters_withSequence, counters_of_table? found] at uncounted
  have kept : after.store.database.others = session.store.database.others := by
    rw [stored, others_seeded clears.unnamed]
    exact others_of_dropping dropped unreferred reached.sound.database
  have free := referencesTo_users has later.sound.database (unreferred.of_others kept)
  have drops := carry_dropping_users has free
  have back := forget_enrolled (distinct_withSequence reachedCleared.distinct) clears.unnamed found
    uncounted (userRow 1 administrator "") (userRow 1 administrator digest)
  rw [← stored] at back
  rw [back] at drops
  have present : cleared.database.withSequence.withSequence = cleared.database.withSequence := by
    have here : (cleared.database.withSequence.find? sequenceName).isNone = false := by
      rw [find?_of_table? found]
      rfl
    rw [withSequence, here, if_neg Bool.false_ne_true]
  refine run_of_same dropped drops ?_ ?_ ?_ done
  · rw [created_database, created_database]
    exact congrArg (fun db => db.add (.table (usersTable []))) present.symm
  · exact clears.enforcing.trans enforcing.symm
  · exact (clears.saved.trans outside).trans (outside_of_run done).symm

/-- The users who register behind the administrator have the ids from the second on. -/
theorem ids_of_registered (reached : session.store.Reached)
    (done : (run hasher password).outcome session = (.ok (), after)) {digest : String}
    (has : after.store.database.HasUsers [userRow 1 administrator digest]) (other : Hasher)
    (deeds : List Deed) {i : Nat} {user : User}
    (registered : ((History.mk after [] [⟨some 1, administrator, digest⟩]).run other
      deeds).registered[i]? = some user) :
    ∃ id : Int64, user.id = some id ∧ id.toInt = 2 + i := by
  obtain ⟨admin, named, agrees⟩ := History.agrees_of_run reached done
  obtain rfl : admin = ⟨1, administrator, digest⟩ := by
    have users : [userRow 1 administrator digest] = [admin.row] := by
      have same := has.table?.symm.trans agrees.directory.has.table?
      exact congrArg Sql.Table.rows (Option.some.inj same)
    simp only [Account.row, userRow, List.cons.injEq, Sql.Row.mk.injEq, Cell.integer.injEq,
      Cell.text.injEq, and_true] at users
    obtain ⟨first, -, name, secret⟩ := users
    rw [first, name, secret]
  obtain ⟨accounts, more, last, -, seen, numbered⟩ := agrees.run other deeds
  have shown : ((History.mk after [] [⟨some 1, administrator, digest⟩]).run other
      deeds).registered = more.map Account.user := seen
  rw [shown, List.getElem?_map, Option.map_eq_some_iff] at registered
  obtain ⟨account, here, rfl⟩ := registered
  have first : (Account.id ⟨1, administrator, digest⟩).toInt = 1 := rfl
  have next := (numbered (by omega)).toInt_getElem? here
  refine ⟨account.id, rfl, ?_⟩
  omega

end Running

end Bootstrap

open Bootstrap

/-- Ships that belong to users and go with them. -/
def ownedShips (rows : List Sql.Row) : Sql.Table where
  name := "ships"
  columns := [⟨"ships_id", "INTEGER", .integer, .binary, false, 1, none⟩,
    ⟨"users_id", "INTEGER", .integer, .binary, false, 0, none⟩]
  idColumn := some 0
  counting := false
  keys := []
  checks := []
  foreignKeys := [⟨[1], ⟨"users", ["users_id"], .cascade, .refuse⟩⟩]
  rows
  declaration := "CREATE TABLE ships (ships_id INTEGER PRIMARY KEY, " ++
    "users_id INTEGER REFERENCES users (users_id) ON DELETE CASCADE);"

/-- Notes on ships, which go with them. -/
def shipNotes (rows : List Sql.Row) : Sql.Table where
  name := "notes"
  columns := [⟨"notes_id", "INTEGER", .integer, .binary, false, 1, none⟩,
    ⟨"ships_id", "INTEGER", .integer, .binary, false, 0, none⟩]
  idColumn := some 0
  counting := false
  keys := []
  checks := []
  foreignKeys := [⟨[1], ⟨"ships", ["ships_id"], .cascade, .refuse⟩⟩]
  rows
  declaration := "CREATE TABLE notes (notes_id INTEGER PRIMARY KEY, " ++
    "ships_id INTEGER REFERENCES ships (ships_id) ON DELETE CASCADE);"

/-- A store with a user, whose ship has a note. -/
def owning : Store :=
  .opened ⟨[.table (userCount 2),
    .table (usersTable [userRow 1 "admin" "d1", userRow 2 "worf" "d2"]),
    .table (ownedShips [⟨1, [.integer 1, .integer 2]⟩]),
    .table (shipNotes [⟨1, [.integer 1, .integer 1]⟩])]⟩

/-- The store of that user without the users of then, with certain counters and certain items besides. -/
def bereft (counters : List Sql.Row) (users : List Item) (lastId changes : Int64) : Store :=
  ⟨⟨[.table { Sql.sequenceTable with rows := counters }, .table (ownedShips []),
    .table (shipNotes [])] ++ users⟩, none, true, lastId, changes⟩

/-- The store of that user with the administrator, of a certain digest. -/
def bereftWith (digest : String) : Store :=
  bereft [⟨1, [.text "users", .integer 1]⟩] [.table (usersTable [userRow 1 "admin" digest])] 1 1

end Registrar
