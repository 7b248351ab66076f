import Registrar.Proofs.Schema
import Registrar.Proofs.UserRows

/-!
# Resetting the users

What the three statements of the script do to a store.  Dropping the old table leaves the others as
they are, unless their rows refer to the users and follow; then the new table can always be created;
and inserting the administrator gives the next id, which is the first unless the store remembers the
ids of a table that it no longer has.
-/

namespace Registrar

open Registrar.Text Registrar.Sql Registrar.Sql.Token Registrar.Sql.Database

namespace Sql.Database

/-- Takes a table away together with the greatest id that it has given. -/
def forget (db : Database) (t : Sql.Table) : Database :=
  let forgotten := match db.table? sequenceName with
    | some sequence => db.replace { sequence with
        rows := sequence.rows.filter fun row => row.cells.head? != some (Cell.text t.name) }
    | none => db
  forgotten.remove t.name

/-- A table has been emptied for being dropped: its rows are removed if references matter and there are
some to it. -/
def Empties (db : Database) (enforcing : Bool) (env : Env) (t : Sql.Table) (emptied : Database) : Prop :=
  emptied = db ∨ enforcing = true ∧ db.referencesTo t.name ≠ [] ∧
    ∃ removed, removeAll env true t.name db t.rows = .ok (emptied, removed)

/-- A table is emptied if others refer to it, and then taken away. -/
theorem of_dropTable {db after : Database} {enforcing : Bool} {env : Env} {t : Sql.Table}
    (dropped : db.dropTable enforcing env t = .ok after) :
    ∃ emptied, db.Empties enforcing env t emptied ∧ after = emptied.forget t := by
  unfold Database.dropTable at dropped
  split at dropped
  · next referred =>
    obtain ⟨emptied, removes, dropped⟩ := bind_eq_ok dropped
    obtain ⟨_, -, dropped⟩ := bind_eq_ok dropped
    obtain ⟨on, referred⟩ := Bool.and_eq_true_iff.1 referred
    refine ⟨emptied.1, .inr ⟨on, ?_, emptied.2, removes⟩, (Except.ok.inj dropped).symm⟩
    simpa using referred
  · exact ⟨db, .inl rfl, (Except.ok.inj dropped).symm⟩

section Forgetting

variable {db : Database} {t : Sql.Table}

/-- Forgetting the users leaves the others as they are. -/
theorem others_forget (same : sameName t.name "users" = true) : (db.forget t).others = db.others := by
  rw [Database.forget, others_remove same]
  split
  · next sequence listed =>
    have own := isOtherName_sequence listed
    exact others_replace db own
  · rfl

/-- The greatest id of a table that has been forgotten is. -/
theorem counted_forget {u : Sql.Table} (same : u.name = t.name)
    (other : sameName sequenceName t.name = false) : (db.forget t).counted u = 0 := by
  rw [Database.forget, Database.counted, table?_remove other]
  cases listed : db.table? sequenceName with
  | none =>
    dsimp only
    rw [listed]
  | some sequence =>
    let left : Sql.Table := { sequence with
      rows := sequence.rows.filter fun row => row.cells.head? != some (Cell.text t.name) }
    have own := name_of_table? listed
    have found : (db.replace left).table? sequenceName = some left := table?_replace listed own
    have none : (sequence.rows.filter fun row => row.cells.head? != some (Cell.text t.name)).find?
        (fun row => row.cells.head? == some (.text u.name)) = none := by
      refine List.find?_eq_none.2 fun row mem => ?_
      obtain ⟨-, kept⟩ := List.mem_filter.1 mem
      rw [same]
      simpa using kept
    simp only [found, left, none]

end Forgetting

/-- The store with a table of the greatest ids. -/
def withSequence (db : Database) : Database :=
  if (db.find? sequenceName).isNone then db.add (.table sequenceTable) else db

end Sql.Database

namespace Bootstrap

/-- A store without users, made of another by dropping the old table if there is one. -/
structure Clears (before after : Store) : Prop where
  unnamed : after.database.find? "users" = none
  others : before.enforcing = false ∨ before.database.referencesTo "users" = [] →
    after.database.others = before.database.others
  saved : after.saved = before.saved
  enforcing : after.enforcing = before.enforcing
  /-- Where there was no table, nothing has changed. -/
  absent : before.database.find? "users" = none → after = before
  /-- The greatest id of the old table is forgotten. -/
  forgets : ∀ t, before.database.table? "users" = some t → t.name = "users" →
    after.database.counted (usersTable []) = 0

/-- The first statement does nothing where there are no users, and drops their table where there is
one. -/
theorem carry_dropping_cases {s cleared : Store} (done : s.carry dropping dropStatement = .ok cleared) :
    (s.database.find? "users" = none ∧ cleared = s) ∨
    ∃ t emptied, s.database.table? "users" = some t ∧
      s.database.Empties s.enforcing (s.env []) t emptied ∧
      cleared = { s with database := emptied.forget t } := by
  have means : s.prepare dropping dropStatement = s.prepareDrop false true "users" := rfl
  rw [Store.carry, means, Store.prepareDrop] at done
  cases found : s.database.find? "users" with
  | none =>
    rw [found] at done
    exact .inl ⟨rfl, (Except.ok.inj done).symm⟩
  | some item =>
    rw [found] at done
    dsimp only at done
    split at done
    · cases done
    · next means =>
      split at means
      · cases means
      · cases item with
        | view v => cases means
        | table t =>
          obtain rfl := Except.ok.inj means
          have here : s.database.table? "users" = some t := by rw [Database.table?, found]
          simp only [Store.run] at done
          cases dropped : s.database.dropTable s.enforcing (s.env []) t with
          | error problem =>
            rw [dropped] at done
            cases done
          | ok database =>
            rw [dropped] at done
            obtain ⟨emptied, empties, rfl⟩ := of_dropTable dropped
            exact .inr ⟨t, emptied, here, empties, (Except.ok.inj done).symm⟩

/-- The first statement clears a store of users if it succeeds. -/
theorem clears_of_carry {s cleared : Store} (done : s.carry dropping dropStatement = .ok cleared) :
    Clears s cleared := by
  rcases carry_dropping_cases done with ⟨found, rfl⟩ | ⟨t, emptied, here, empties, rfl⟩
  · exact ⟨found, fun _ => rfl, rfl, rfl, fun _ => rfl, by simp [Database.table?, found]⟩
  have same := name_of_table? here
  refine ⟨find?_remove_self same, fun free => ?_, rfl, rfl, fun none => ?_, ?_⟩
  · rcases empties with rfl | ⟨on, referred, -⟩
    · exact others_forget same
    · rw [referencesTo_congr same] at referred
      rcases free with off | unreferred
      · rw [off] at on
        cases on
      · exact absurd unreferred referred
  · rw [find?_of_table? here] at none
    cases none
  · intro u again named
    obtain rfl := Option.some.inj (here.symm.trans again)
    have other : sameName sequenceName t.name = false := by
      rw [named, sameName_comm, sameName_users_sequence]
    exact counted_forget named.symm other

/-- The store with the new table of users, which has no rows yet. -/
def created (cleared : Store) : Store :=
  { cleared with database := cleared.database.addTable (usersTable []) }

/-- The second statement creates the table where there is nothing of its name. -/
theorem carry_usersDeclaration {cleared : Store} (unnamed : cleared.database.find? "users" = none) :
    cleared.carry usersDeclaration createStatement = .ok (created cleared) := by
  have declared : declareTable "users" usersDeclaration
      [⟨"users_id", "INTEGER", [.primaryKey false true]⟩, ⟨"users_val", "TEXT", [.unique, .notNull]⟩,
        ⟨"password", "TEXT", [.notNull]⟩] [] = .ok (usersTable []) := rfl
  have free : cleared.database.checkName ⟨"users", "users", 15⟩ false = .ok true := by
    have unreserved : isReservedName "users" = false := by decide
    simp only [Database.checkName, unreserved, unnamed, Bool.false_eq_true, if_false]
  have means : cleared.prepare usersDeclaration createStatement =
      .ok (.become (created cleared).database) := by
    simp only [Store.prepare, createStatement, Database.createTable, free, declared, bind, Except.bind]
    rfl
  rw [Store.carry, means]
  rfl

section Seeding

variable {cleared : Store}

/-- The new table is added behind the table of the greatest ids. -/
theorem created_database (cleared : Store) :
    (created cleared).database = cleared.database.withSequence.add (.table (usersTable [])) :=
  rfl

/-- Nothing has the name of the users once the table of the greatest ids is there. -/
theorem unnamed_withSequence (unnamed : cleared.database.find? "users" = none) :
    ∀ item ∈ cleared.database.withSequence.items, sameName item.name "users" = false := by
  have free := unnamed_of_find? unnamed
  unfold withSequence
  split
  · intro item mem
    rcases List.mem_append.1 mem with mem | mem
    · exact free item mem
    · rw [List.mem_singleton.1 mem]
      exact (by decide : sameName sequenceName "users" = false)
  · exact free

/-- The new table has no rows. -/
theorem hasUsers_created (unnamed : cleared.database.find? "users" = none) :
    (created cleared).database.HasUsers [] := by
  refine ⟨cleared.database.withSequence.items, [], rfl, ?_⟩
  rw [List.append_nil]
  exact unnamed_withSequence unnamed

/-- The new table is not among the others. -/
theorem others_created (cleared : Store) :
    (created cleared).database.others = cleared.database.others := by
  have users : isOtherName (Item.table (usersTable [])).name = false := isOtherName_users
  have counter : isOtherName (Item.table sequenceTable).name = false := by decide
  rw [created_database, others_add _ users, withSequence]
  split
  · exact others_add _ counter
  · rfl

/-- The new table goes on counting where the store does. -/
theorem counted_created (cleared : Store) :
    (created cleared).database.counted (usersTable []) =
      cleared.database.counted (usersTable []) := by
  have other : sameName (Item.table (usersTable [])).name sequenceName = false :=
    sameName_users_sequence
  have own : sameName (Item.table sequenceTable).name sequenceName = true := beq_self_eq_true _
  rw [created_database]
  simp only [Database.counted, Database.table?, find?_add, other, Bool.false_eq_true, if_false,
    Option.or_none]
  cases found : cleared.database.find? sequenceName with
  | none =>
    have added : cleared.database.withSequence.find? sequenceName = some (.table sequenceTable) := by
      rw [withSequence, found, Option.isNone_none, if_pos rfl, find?_add, found, own]
      rfl
    rw [added]
    rfl
  | some item =>
    rw [withSequence, found, Option.isNone_some, if_neg Bool.false_ne_true, found]

/-- The third statement inserts the administrator, without a password, with the next id. -/
theorem of_carry_seeding (unnamed : cleared.database.find? "users" = none) {seeded : Store}
    (done : (created cleared).carry seeding insertStatement = .ok seeded) :
    ∃ id, nextId (usersTable []) (cleared.database.counted (usersTable [])) = .ok id ∧
      seeded.database.HasUsers [userRow id "admin" ""] ∧
      seeded.database.others = cleared.database.others ∧
      seeded.saved = cleared.saved ∧ seeded.enforcing = cleared.enforcing ∧
      seeded.database = (created cleared).database.enroll [] (userRow id "admin" "") := by
  have has := hasUsers_created unnamed
  have values : resolveRows ⟨[], [], false, true⟩
      [[.literal (.text "admin"), .literal (.text "")]] =
        .ok [[.literal (.text "admin"), .literal (.text "")]] := rfl
  have planned := planInsert_user has (created cleared).enforcing values
  simp only [Store.carry, Store.prepare, insertStatement, planned, bind, Except.bind, Store.run]
    at done
  cases ran : (userInsertion (.literal (.text "admin")) (.literal (.text ""))).run
      (created cleared).database (created cleared).enforcing ((created cleared).env []) with
  | error problem => simp [ran] at done
  | ok outcome =>
    rw [ran] at done
    obtain rfl := Except.ok.inj done
    obtain ⟨id, next, -, rfl⟩ := of_userInsertion has rfl rfl ran
    obtain ⟨grown, others⟩ := hasUsers_enroll has (userRow id "admin" "")
    rw [counted_created] at next
    exact ⟨id, next, grown, others.trans (others_created cleared), rfl, rfl, rfl⟩

end Seeding

end Bootstrap

end Registrar
