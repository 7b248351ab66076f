import Registrar.Proofs.Accounts.Directory
import Registrar.Proofs.Reach

/-!
# Remembered ids

The store remembers the greatest id that it has given to a user, in a table of its own.  No user who
is removed is forgotten there, so that no id is given twice.
-/

namespace Registrar

open Registrar.Text Registrar.Sql Registrar.Sql.Database Call

/-- A store remembers an id as the greatest that it has given to a user. -/
structure Remembers (db : Database) (last : Int64) : Prop where
  sequence : (db.table? sequenceName).isSome
  last : db.counted (usersTable []) = last.toInt

/-- What is remembered depends on the table of the greatest ids only. -/
theorem Remembers.congr {db after : Database} {last : Int64} (remembers : Remembers db last)
    (same : after.table? sequenceName = db.table? sequenceName) : Remembers after last := by
  refine ⟨same ▸ remembers.sequence, ?_⟩
  rw [← remembers.last, Database.counted, Database.counted, same]

/-- Where the rows that pass a test get new cells, or a row with these is added if there are none, the
first row that passes the test has the new cells. -/
theorem find?_renewed {isOwn : Sql.Row → Bool} {cells : List Cell}
    (passes : ∀ id, isOwn ⟨id, cells⟩ = true) (rows : List Sql.Row) (new : Int64) :
    ((if rows.any isOwn then rows.map fun row => if isOwn row then { row with cells } else row
      else rows ++ [⟨new, cells⟩]).find? isOwn).map Sql.Row.cells = some cells := by
  by_cases any : rows.any isOwn = true
  · have same : (isOwn ∘ fun row : Sql.Row => if isOwn row then { row with cells } else row) =
        isOwn := by
      refine funext fun row => ?_
      rw [Function.comp_apply]
      split
      · next here => rw [passes row.id, here]
      · rfl
    obtain ⟨row, among, here⟩ := List.any_eq_true.1 any
    have isSome : (rows.find? isOwn).isSome := List.find?_isSome.2 ⟨row, among, here⟩
    obtain ⟨old, chosen⟩ := Option.isSome_iff_exists.1 isSome
    rw [if_pos any, List.find?_map, same, chosen, Option.map_some, if_pos (List.find?_some chosen)]
    rfl
  · have none : rows.find? isOwn = none :=
      List.find?_eq_none.2 fun row mem here => any (List.any_eq_true.2 ⟨row, mem, here⟩)
    rw [if_neg any, List.find?_append, none, Option.none_or, List.find?_cons_of_pos (passes new)]
    rfl

/-- The counters once an id is remembered for a table: its own counter is renewed, or there is a new
one at the end. -/
def recount (rows : List Sql.Row) (name : String) (counted : Int) (new : Int64) : List Sql.Row :=
  if rows.any fun row => row.cells.head? == some (.text name) then
    rows.map fun row =>
      if row.cells.head? == some (.text name) then
        { row with cells := [.text name, .integer (Int64.ofInt counted)] }
      else row
  else rows ++ [⟨new, [.text name, .integer (Int64.ofInt counted)]⟩]

/-- Remembering an id changes the counters only. -/
theorem remember_eq {db : Database} {sequence : Sql.Table}
    (found : db.table? sequenceName = some sequence) (t : Sql.Table) (counted : Int) :
    ∃ new, db.remember t counted =
      db.replace { sequence with rows := recount sequence.rows t.name counted new } := by
  simp only [Database.remember, found]
  exact ⟨_, rfl⟩

/-- An id that is remembered for a table is the greatest that it has given. -/
theorem counted_remember {db : Database} {sequence : Sql.Table}
    (found : db.table? sequenceName = some sequence) (t : Sql.Table) (id : Int64) :
    (db.remember t id.toInt).counted t = id.toInt ∧
      ((db.remember t id.toInt).table? sequenceName).isSome := by
  obtain ⟨new, put⟩ := remember_eq found t id.toInt
  have there : (db.remember t id.toInt).table? sequenceName =
      some { sequence with rows := recount sequence.rows t.name id.toInt new } := by
    have own := name_of_table? found
    rw [put]
    exact table?_replace found own
  let isOwn : Sql.Row → Bool := fun row => row.cells.head? == some (.text t.name)
  have passes : ∀ new, isOwn ⟨new, [.text t.name, .integer (Int64.ofInt id.toInt)]⟩ = true :=
    fun _ => beq_self_eq_true _
  obtain ⟨row, chosen, shown⟩ := Option.map_eq_some_iff.1 (find?_renewed passes sequence.rows new)
  have known : (db.remember t id.toInt).counted t =
      ((row.cells[1]?).getD Cell.null).toInt64.toInt := by
    have here : (recount sequence.rows t.name id.toInt new).find?
        (fun row => row.cells.head? == some (.text t.name)) = some row := chosen
    simp only [Database.counted, there, here]
  refine ⟨?_, by rw [there]; rfl⟩
  rw [known, shown]
  show (Int64.ofInt id.toInt).toInt = id.toInt
  rw [Int64.ofInt_toInt]

/-- Where a store takes in a user of a greater id, it remembers this one. -/
theorem remembers_enroll {db : Database} {sequence : Sql.Table}
    (found : db.table? sequenceName = some sequence) (rows : List Sql.Row) (row : Sql.Row)
    (above : db.counted (usersTable []) < row.id.toInt) :
    Remembers (db.enroll rows row) row.id := by
  have greatest : max (db.counted (usersTable rows)) row.id.toInt = row.id.toInt :=
    Int.max_eq_right (Int.le_of_lt above)
  have other : sameName (usersTable (Sql.Table.insertRow row rows)).name sequenceName = false :=
    sameName_users_sequence
  have kept : (db.replace (usersTable (Sql.Table.insertRow row rows))).table? sequenceName =
      some sequence := by
    rw [table?_replace_other other, found]
  obtain ⟨last, isSome⟩ := counted_remember kept (usersTable rows) row.id
  rw [Database.enroll, greatest]
  exact ⟨isSome, last⟩

section Starting

/-- A statement that is carried out has a meaning, and is run. -/
theorem Sql.Store.of_carry {s after : Store} {source : String} {statement : Sql.Statement}
    (done : s.carry source statement = .ok after) :
    ∃ action answer, s.prepare source statement = .ok action ∧ s.run [] action = .ok (answer, after) := by
  unfold Store.carry at done
  split at done
  · cases done
  · next action means =>
    split at done
    · cases done
    · next answer left ran =>
      obtain rfl := Except.ok.inj done
      exact ⟨action, answer, means, ran⟩

/-- A statement that is carried out leaves the tables sound. -/
theorem Sql.Store.Sound.carry {s after : Store} {source : String} {statement : Sql.Statement}
    (sound : s.Sound) (done : s.carry source statement = .ok after) : after.Sound := by
  obtain ⟨action, answer, means, ran⟩ := Store.of_carry done
  exact sound.run means ran

/-- A statement that is carried out leaves a store that there can be. -/
theorem Sql.Store.Reached.carry {s after : Store} {source : String} {statement : Sql.Statement}
    (reached : s.Reached) (done : s.carry source statement = .ok after) : after.Reached := by
  obtain ⟨action, answer, means, ran⟩ := Store.of_carry done
  exact .ran reached means ran

/-- Where the tables are sound, the table of the greatest ids is there or is made. -/
theorem sequence_withSequence {db : Database} (sound : db.Sound) :
    ∃ sequence, db.withSequence.table? sequenceName = some sequence := by
  have own : sameName (Item.table sequenceTable).name sequenceName = true := beq_self_eq_true _
  rw [withSequence, Database.table?]
  cases found : db.find? sequenceName with
  | none =>
    refine ⟨sequenceTable, ?_⟩
    rw [Option.isNone_none, if_pos rfl, find?_add, found, own]
    rfl
  | some item =>
    rw [Option.isNone_some, if_neg Bool.false_ne_true, found]
    cases item with
    | table sequence => exact ⟨sequence, rfl⟩
    | view v =>
      -- the name is reserved, so that no view has it
      have good := sound _ (List.mem_of_find?_eq_some found)
      have named : sameName v.name sequenceName = true := List.find?_some (a := Item.view v) found
      rw [Item.Sound, named] at good
      cases good

/-- Where the tables are sound, the table of the greatest ids is there once the users are declared. -/
theorem sequence_created {cleared : Store} (sound : cleared.Sound) :
    ∃ sequence, (Bootstrap.created cleared).database.table? sequenceName = some sequence := by
  obtain ⟨sequence, found⟩ := sequence_withSequence sound.database
  refine ⟨sequence, ?_⟩
  rw [Bootstrap.created_database, Database.table?, find?_add, find?_of_table? found]
  rfl

/-- A store that has been initialized remembers the id of the administrator. -/
theorem remembers_of_run {hasher : Hasher} {password : String} {session after : Session}
    (sound : session.store.Sound)
    (done : (Bootstrap.run hasher password).outcome session = (.ok (), after)) :
    ∃ id digest, Directory after.store [⟨id, Bootstrap.administrator, digest⟩] ∧
      Remembers after.store.database id ∧ 0 < id.toInt := by
  obtain ⟨id, digest, directory, seeded, ⟨cleared, clears, next, enrolled⟩, kept⟩ :=
    directory_of_run done
  obtain ⟨sequence, there⟩ := sequence_created (sound.carry clears)
  have none : List.Pairwise (fun a b : Account => a.id.toInt < b.id.toInt) [] := .nil
  have above := (lt_of_nextId none next).1
  have least : 0 < id.toInt := by
    have exact : id.toInt = max (greatestId []) (cleared.database.counted (usersTable [])) + 1 :=
      toInt_of_nextId next
    have unnumbered : greatestId [] = 0 := rfl
    omega
  rw [← Bootstrap.counted_created] at above
  have remembers := remembers_enroll there [] (userRow id Bootstrap.administrator "") above
  rw [← enrolled] at remembers
  exact ⟨id, digest, directory, remembers.congr kept, least⟩

end Starting

end Registrar
