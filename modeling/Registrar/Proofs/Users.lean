import Registrar.Sql.Store

/-!
# The table of users

The table of users as its declaration makes it, in a store that holds other tables and views besides.
`HasUsers db rows` says that the store has this table, with certain rows, and nothing else of its
name; putting a changed table in its place changes nothing else, and neither does remembering the
greatest id that was given.
-/

namespace Registrar

open Registrar.Text Registrar.Sql

/-- The declaration of the table of users, from the end of the statement before it on. -/
def usersDeclaration : String :=
  "\n\nCREATE TABLE users (\n" ++
  "    users_id INTEGER PRIMARY KEY AUTOINCREMENT,\n" ++
  "    users_val TEXT UNIQUE NOT NULL,\n" ++
  "    password TEXT NOT NULL\n" ++
  ");"

/-- The table of users with certain rows. -/
def usersTable (rows : List Sql.Row) : Sql.Table where
  name := "users"
  columns := [⟨"users_id", "INTEGER", .integer, .binary, false, 1, none⟩,
    ⟨"users_val", "TEXT", .text, .binary, true, 0, none⟩,
    ⟨"password", "TEXT", .text, .binary, true, 0, none⟩]
  idColumn := some 0
  counting := true
  keys := [⟨[1], false⟩]
  checks := []
  foreignKeys := []
  rows
  declaration := usersDeclaration

/-- The row of a user. -/
def userRow (id : Int64) (name digest : String) : Sql.Row :=
  ⟨id, [.integer id, .text name, .text digest]⟩

/-- A user as a row of the table keeps one. -/
structure Account where
  id : Int64
  name : String
  digest : String

/-- The row of a user. -/
def Account.row (account : Account) : Sql.Row :=
  userRow account.id account.name account.digest

/-- Names that are the same are the same as the same names. -/
theorem sameName_congr {a b : String} (same : sameName a b = true) (c : String) :
    sameName a c = sameName b c := by
  rw [sameName, beq_iff_eq] at same
  rw [sameName, sameName, same]

/-- Which of two names is the other does not matter. -/
theorem sameName_comm (a b : String) : sameName a b = sameName b a := by
  rw [sameName, sameName, Bool.beq_comm]

/-- The same names are the same as the same names. -/
theorem sameName_congr_right {a b : String} (same : sameName a b = true) (c : String) :
    sameName c a = sameName c b := by
  rw [sameName_comm, sameName_congr same, sameName_comm]

/-- The name of the users is not that of the greatest ids. -/
theorem sameName_users_sequence : sameName "users" sequenceName = false := by
  decide

namespace Sql

/-- The store has the table of users with certain rows, and nothing else of its name. -/
def Database.HasUsers (db : Database) (rows : List Sql.Row) : Prop :=
  ∃ before after, db.items = before ++ .table (usersTable rows) :: after ∧
    ∀ item ∈ before ++ after, sameName item.name "users" = false

/-- Whether a name is neither that of the users nor that of the greatest ids. -/
def isOtherName (name : String) : Bool :=
  !sameName name "users" && !sameName name sequenceName

/-- The same names are other names in the same way. -/
theorem isOtherName_congr {a b : String} (same : sameName a b = true) :
    isOtherName a = isOtherName b := by
  rw [isOtherName, isOtherName, sameName_congr same, sameName_congr same]

/-- The tables and views of a store other than the users and the greatest ids. -/
def Database.others (db : Database) : List Item :=
  db.items.filter fun item => isOtherName item.name

namespace Database

/-- In a store without users, nothing has their name. -/
theorem unnamed_of_find? {db : Database} (none : db.find? "users" = none) :
    ∀ item ∈ db.items, sameName item.name "users" = false := by
  intro item mem
  simpa using List.find?_eq_none.1 none item mem

/-- A table is found among what is in its store. -/
theorem find?_of_table? {db : Database} {name : String} {t : Sql.Table}
    (found : db.table? name = some t) : db.find? name = some (.table t) := by
  rw [Database.table?] at found
  split at found
  · next here => rw [here, Option.some.inj found]
  · cases found

/-- What is found by a name has that name. -/
theorem name_of_find? {db : Database} {name : String} {item : Item}
    (found : db.find? name = some item) : sameName item.name name = true := by
  have holds := List.find?_some found
  exact holds

/-- A table that is found by a name has that name. -/
theorem name_of_table? {db : Database} {name : String} {t : Sql.Table}
    (found : db.table? name = some t) : sameName t.name name = true := by
  have named := name_of_find? (find?_of_table? found)
  exact named

/-- The table of greatest ids is not that of the users. -/
theorem sequence_ne_users {db : Database} {sequence : Sql.Table}
    (found : db.table? sequenceName = some sequence) : sameName sequence.name "users" = false := by
  rw [sameName_congr (name_of_table? found), sameName_comm, sameName_users_sequence]

/-- A table that is put in the place of those of its name is not seen by a test that it does not
pass, if the test depends on the name only. -/
theorem filter_replace {keep : String → Bool}
    (congr : ∀ {a b}, sameName a b = true → keep a = keep b) (db : Database) {t : Sql.Table}
    (own : keep t.name = false) :
    (db.replace t).items.filter (fun item => keep item.name) =
      db.items.filter fun item => keep item.name := by
  have kept : ∀ items : List Item,
      (items.map fun item => if sameName item.name t.name then .table t else item).filter
        (fun item => keep item.name) = items.filter fun item => keep item.name := by
    intro items
    induction items with
    | nil => rfl
    | cons item items ih =>
      rw [List.map_cons, List.filter_cons, List.filter_cons, ih]
      by_cases same : sameName item.name t.name = true
      · have alike : keep item.name = false := (congr same).trans own
        have put : keep (Item.table t).name = false := own
        rw [if_pos same, put, alike]
        rfl
      · rw [if_neg same]
  exact kept db.items

/-- What is put in the place of the users, or of the greatest ids, is not among the others. -/
theorem others_replace (db : Database) {t : Sql.Table} (own : isOtherName t.name = false) :
    (db.replace t).others = db.others :=
  filter_replace isOtherName_congr db own

/-- The table of greatest ids is not among the others. -/
theorem isOtherName_sequence {db : Database} {sequence : Sql.Table}
    (found : db.table? sequenceName = some sequence) : isOtherName sequence.name = false := by
  rw [isOtherName, name_of_table? found, Bool.not_true, Bool.and_false]

/-- Remembering a greatest id does not change the others. -/
theorem others_remember (db : Database) (t : Sql.Table) (counted : Int) :
    (db.remember t counted).others = db.others := by
  unfold Database.remember
  split
  · rfl
  · next sequence found =>
    have own := isOtherName_sequence found
    exact others_replace db own

/-- A table that is put in the place of those of its name is found there. -/
theorem find?_replace {db : Database} {t : Sql.Table} {name : String}
    (same : sameName t.name name = true) :
    (db.replace t).find? name = (db.find? name).map fun _ => .table t := by
  have found : ∀ items : List Item,
      (items.map fun item => if sameName item.name t.name then Item.table t else item).find?
          (fun item => sameName item.name name) =
        (items.find? fun item => sameName item.name name).map fun _ => .table t := by
    intro items
    induction items with
    | nil => rfl
    | cons item items ih =>
      have alike := sameName_congr_right same item.name
      have put : sameName (Item.table t).name name = true := same
      cases here : sameName item.name name with
      | true => simp [alike, here, put]
      | false => simp only [List.map_cons, alike, here, Bool.false_eq_true, if_false, List.find?_cons, ih]
  exact found db.items

/-- What has another name is still found when a table is put in its place. -/
theorem find?_replace_other {db : Database} {t : Sql.Table} {name : String}
    (other : sameName t.name name = false) : (db.replace t).find? name = db.find? name := by
  have found : ∀ items : List Item,
      (items.map fun item => if sameName item.name t.name then Item.table t else item).find?
          (fun item => sameName item.name name) =
        items.find? fun item => sameName item.name name := by
    intro items
    induction items with
    | nil => rfl
    | cons item items ih =>
      have put : sameName (Item.table t).name name = false := other
      rw [List.map_cons, List.find?_cons, List.find?_cons, ih]
      cases here : sameName item.name t.name with
      | true =>
        have unnamed : sameName item.name name = false := by rw [sameName_congr here, other]
        rw [if_pos rfl, put, unnamed]
      | false => rw [if_neg Bool.false_ne_true]
  exact found db.items

/-- The same names find the same. -/
theorem find?_congr {db : Database} {name other : String} (same : sameName name other = true) :
    db.find? name = db.find? other := by
  simp only [Database.find?, sameName_congr_right same]

/-- What has another name is still found when a name is taken away. -/
theorem find?_remove {db : Database} {removed name : String}
    (other : sameName name removed = false) : (db.remove removed).find? name = db.find? name := by
  have found : ∀ items : List Item,
      (items.filter fun item => !sameName item.name removed).find?
          (fun item => sameName item.name name) =
        items.find? fun item => sameName item.name name := by
    intro items
    rw [List.find?_filter]
    refine congrArg items.find? (funext fun item => ?_)
    by_cases here : sameName item.name name = true
    · rw [here, sameName_congr here, other]
      rfl
    · simp [here]
  exact found db.items

/-- A table that is put in the place of a table of its name is found there. -/
theorem table?_replace {db : Database} {old t : Sql.Table} {name : String}
    (found : db.table? name = some old) (same : sameName t.name name = true) :
    (db.replace t).table? name = some t := by
  rw [Database.table?] at found
  split at found
  · next here => rw [Database.table?, find?_replace same, here, Option.map_some]
  · cases found

/-- A table of another name is still found when a table is put in its place. -/
theorem table?_replace_other {db : Database} {t : Sql.Table} {name : String}
    (other : sameName t.name name = false) : (db.replace t).table? name = db.table? name := by
  rw [Database.table?, find?_replace_other other, Database.table?]

/-- Remembering a greatest id leaves what has another name than that of the greatest ids. -/
theorem find?_remember_other {db : Database} {t : Sql.Table} {counted : Int} {name : String}
    (other : sameName sequenceName name = false) :
    (db.remember t counted).find? name = db.find? name := by
  unfold Database.remember
  split
  · rfl
  · next sequence found =>
    have own : sameName sequence.name name = false := by
      rw [sameName_congr (name_of_table? found), other]
    exact find?_replace_other own

/-- What is put in the place of a table is the only new table. -/
theorem mem_tables_replace {db : Database} {t changed : Sql.Table}
    (mem : t ∈ (db.replace changed).tables) : t = changed ∨ t ∈ db.tables := by
  obtain ⟨item, among, shown⟩ := List.mem_filterMap.1 mem
  obtain ⟨source, before, rfl⟩ := List.mem_map.1 among
  split at shown
  · next same =>
    split at same
    · left
      rw [← Option.some.inj shown]
      exact (Item.table.inj same).symm
    · right
      rw [← Option.some.inj shown]
      exact List.mem_filterMap.2 ⟨_, before, by rw [same]⟩
  · cases shown

/-- The same names find the same table. -/
theorem table?_congr {db : Database} {name other : String} (same : sameName name other = true) :
    db.table? name = db.table? other := by
  rw [Database.table?, find?_congr same, Database.table?]

/-- A table of another name is still found when a name is taken away. -/
theorem table?_remove {db : Database} {removed name : String}
    (other : sameName name removed = false) : (db.remove removed).table? name = db.table? name := by
  rw [Database.table?, find?_remove other, Database.table?]

/-- Nothing of a name is found when it has been taken away. -/
theorem find?_remove_self {db : Database} {removed name : String}
    (same : sameName removed name = true) : (db.remove removed).find? name = none := by
  refine List.find?_eq_none.2 fun item mem => ?_
  obtain ⟨-, kept⟩ := List.mem_filter.1 mem
  rw [← sameName_congr_right same]
  simpa using kept

/-- Taking the users away does not change the others. -/
theorem others_remove {db : Database} {removed : String}
    (same : sameName removed "users" = true) : (db.remove removed).others = db.others := by
  rw [Database.others, Database.others, Database.remove, List.filter_filter]
  refine List.filter_congr fun item _ => ?_
  rw [sameName_congr_right same, isOtherName]
  cases sameName item.name "users" <;> simp

/-- References to the users are references to whatever has the same name. -/
theorem referencesTo_congr {db : Database} {name other : String} (same : sameName name other = true) :
    db.referencesTo name = db.referencesTo other := by
  simp only [Database.referencesTo, sameName_congr_right same]

/-- What is added to a store is found behind what it has. -/
theorem find?_add (db : Database) (item : Item) (name : String) :
    (db.add item).find? name =
      (db.find? name).or (if sameName item.name name then some item else none) := by
  simp only [Database.find?, Database.add, List.find?_append]
  cases same : sameName item.name name <;> simp [same]

/-- What is added under a name of their own is not among the others. -/
theorem others_add (db : Database) {item : Item} (own : isOtherName item.name = false) :
    (db.add item).others = db.others := by
  simp [Database.others, Database.add, own]

namespace HasUsers

variable {db : Database} {rows new : List Sql.Row}

/-- The table of users is found by its name. -/
theorem find? (has : db.HasUsers rows) : db.find? "users" = some (.table (usersTable rows)) := by
  obtain ⟨before, after, items, unnamed⟩ := has
  have first : before.find? (fun item => sameName item.name "users") = none := by
    rw [List.find?_eq_none]
    intro item mem
    simp [unnamed item (List.mem_append_left after mem)]
  have own : sameName (Item.table (usersTable rows)).name "users" = true := beq_self_eq_true _
  rw [Database.find?, items, List.find?_append, first, Option.none_or]
  exact List.find?_cons_of_pos own

/-- The table of users is found by its name as a table. -/
theorem table? (has : db.HasUsers rows) : db.table? "users" = some (usersTable rows) := by
  rw [Database.table?, has.find?]

/-- A table may be put in the place of another of its name without changing the users. -/
theorem replace_other (has : db.HasUsers rows) {t : Sql.Table}
    (other : sameName t.name "users" = false) : (db.replace t).HasUsers rows := by
  obtain ⟨before, after, items, unnamed⟩ := has
  let put : Item → Item := fun item => if sameName item.name t.name then .table t else item
  have name : ∀ item, sameName (put item).name "users" = sameName item.name "users" := by
    intro item
    by_cases same : sameName item.name t.name = true
    · simp only [put, if_pos same]
      exact (sameName_congr same "users").symm
    · simp only [put, if_neg same]
  have own : put (.table (usersTable rows)) = .table (usersTable rows) := by
    have different : sameName "users" t.name = false := by rw [sameName_comm, other]
    simp only [put, Item.name, usersTable, different, Bool.false_eq_true, if_false]
  refine ⟨before.map put, after.map put, ?_, ?_⟩
  · rw [Database.replace, items, List.map_append, List.map_cons]
    exact congrArg (fun item => before.map put ++ item :: after.map put) own
  · intro item mem
    rw [← List.map_append, List.mem_map] at mem
    obtain ⟨source, among, rfl⟩ := mem
    rw [name, unnamed source among]

/-- Other rows may be put in the place of the rows of the users. -/
theorem replace (has : db.HasUsers rows) : (db.replace (usersTable new)).HasUsers new := by
  obtain ⟨before, after, items, unnamed⟩ := has
  have same : ∀ part : List Item, (∀ item ∈ part, sameName item.name "users" = false) →
      (part.map fun item =>
        if sameName item.name "users" then Item.table (usersTable new) else item) = part := by
    intro part unnamed
    induction part with
    | nil => rfl
    | cons item part ih =>
      rw [List.map_cons, ih fun other mem => unnamed other (List.mem_cons_of_mem item mem),
        unnamed item List.mem_cons_self]
      rfl
  have own : sameName "users" "users" = true := beq_self_eq_true _
  refine ⟨before, after, ?_, unnamed⟩
  show (db.items.map fun item =>
    if sameName item.name "users" then Item.table (usersTable new) else item) = _
  rw [items, List.map_append, List.map_cons,
    same before fun item mem => unnamed item (List.mem_append_left after mem),
    same after fun item mem => unnamed item (List.mem_append_right before mem)]
  exact congrArg (fun item => before ++ item :: after) (if_pos own)

/-- Remembering a greatest id does not change the users. -/
theorem remember (has : db.HasUsers rows) (t : Sql.Table) (counted : Int) :
    (db.remember t counted).HasUsers rows := by
  unfold Database.remember
  split
  · exact has
  · next sequence found =>
    have other := sequence_ne_users found
    exact has.replace_other other

end HasUsers

end Database

end Sql

end Registrar
