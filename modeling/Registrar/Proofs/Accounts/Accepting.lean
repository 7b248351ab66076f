import Registrar.Proofs.Accounts.Remembering
import Registrar.Proofs.Sql.Soundness

/-!
# Users are taken in

A store takes in a user unless the name is taken or no id is left.  A new user breaks no reference: the
users and the greatest ids refer to nothing, no row can refer to a greatest id, and who referred to a user
still does.
-/

namespace Registrar

open Registrar.Text Registrar.Sql Registrar.Sql.Database

section References

variable {db after : Database} {fk : ForeignKey} {rows : List Sql.Row} {row : Sql.Row}

/-- A table is referred to in the same way as long as nothing but its rows changes. -/
theorem refers_of_shape {t u : Sql.Table} (same : t.shape = u.shape) (fk : ForeignKey) :
    t.referredColumns fk = u.referredColumns fk ∧ t.refersTo = u.refersTo := by
  have columns (v : Sql.Table) : v.shape.referredColumns fk = v.referredColumns fk := rfl
  have rows (v : Sql.Table) : v.shape.refersTo = v.refersTo := rfl
  exact ⟨by rw [← columns t, same, columns u], by rw [← rows t, same, rows u]⟩

/-- A row that refers to nothing also referred to nothing when the table that it refers to had the same
columns and keys and no more rows. -/
theorem isDangling_of_more {before now : Sql.Table} (shape : now.shape = before.shape)
    (more : ∀ row ∈ before.rows, row ∈ now.rows)
    (found : db.table? fk.reference.table = some before)
    (here : after.table? fk.reference.table = some now) (dangles : after.isDangling fk row = true) :
    db.isDangling fk row = true := by
  obtain ⟨columns, refers⟩ := refers_of_shape shape fk
  simp only [isDangling, here, columns, refers] at dangles
  simp only [isDangling, found]
  split at dangles
  · cases dangles
  · next present =>
    rw [if_neg present]
    cases referred : before.referredColumns fk with
    | none => rfl
    | some columns =>
      rw [referred] at dangles
      simp only [Bool.not_eq_true', List.any_eq_false] at dangles ⊢
      exact fun other mem => dangles other (more other mem)

/-- The greatest ids cannot be referred to: no column of theirs tells their rows apart. -/
theorem referredColumns_sequence {sequence : Sql.Table} (shape : sequence.shape = sequenceTable)
    (fk : ForeignKey) : sequence.referredColumns fk = none := by
  have own : sequence.shape = sequenceTable.shape := shape
  rw [(refers_of_shape own fk).1, Sql.Table.referredColumns]
  split
  · rfl
  · cases fk.reference.columns.mapM sequenceTable.columnIndex? with
    | none => rfl
    | some positions => exact if_neg (by simp [sequenceTable])

/-- What a store with another user finds by a name has the columns and keys that it had, and no fewer rows,
or it is the table of the greatest ids. -/
theorem table?_enroll (sound : db.Sound) (has : db.HasUsers rows) (row : Sql.Row) {name : String}
    {before : Sql.Table} (found : db.table? name = some before) :
    before.shape = sequenceTable ∨ ∃ now, (db.enroll rows row).table? name = some now ∧
      now.shape = before.shape ∧ ∀ other ∈ before.rows, other ∈ now.rows := by
  by_cases counts : sameName sequenceName name = true
  · left
    have own : sameName before.name sequenceName = true := by
      rw [sameName_congr_right counts, name_of_table? found]
    exact (sound.of_table? found).2 own
  · rw [Bool.not_eq_true] at counts
    have kept : (db.enroll rows row).table? name =
        (db.replace (usersTable (Sql.Table.insertRow row rows))).table? name := by
      rw [Database.table?, Database.enroll, find?_remember_other counts, Database.table?]
    right
    rw [kept]
    by_cases same : sameName "users" name = true
    · rw [table?_congr (sameName_comm _ _ ▸ same), has.table?] at found
      obtain rfl := Option.some.inj found
      exact ⟨_, table?_replace (by rw [table?_congr (sameName_comm _ _ ▸ same), has.table?]) same, rfl,
        fun other mem => mem_insertRow.2 (.inr mem)⟩
    · rw [Bool.not_eq_true] at same
      exact ⟨before, (table?_replace_other same).trans found, rfl, fun _ mem => mem⟩

/-- Where a row refers to nothing once another user is there, it referred to nothing before. -/
theorem isDangling_of_enroll (sound : db.Sound) (has : db.HasUsers rows) {new : Sql.Row}
    (dangles : (db.enroll rows new).isDangling fk row = true) : db.isDangling fk row = true := by
  cases found : db.table? fk.reference.table with
  | none =>
    simp only [isDangling] at dangles
    simp only [isDangling, found]
    split at dangles
    · cases dangles
    · next present => rw [if_neg present]
  | some before =>
    rcases table?_enroll sound has new found with shape | ⟨now, here, shape, more⟩
    · simp only [isDangling] at dangles
      simp only [isDangling, found, referredColumns_sequence shape fk]
      split at dangles
      · cases dangles
      · next present => rw [if_neg present]
    · exact isDangling_of_more shape more found here dangles

/-- A table of a store with another user refers to nothing, or it is as it was. -/
theorem mem_tables_enroll (sound : db.Sound) {t : Sql.Table}
    (mem : t ∈ (db.enroll rows row).tables) : t.foreignKeys = [] ∨ t ∈ db.tables := by
  have replaced {t : Sql.Table}
      (mem : t ∈ (db.replace (usersTable (Sql.Table.insertRow row rows))).tables) :
      t.foreignKeys = [] ∨ t ∈ db.tables := by
    rcases mem_tables_replace mem with rfl | mem
    · exact .inl rfl
    · exact .inr mem
  unfold Database.enroll Database.remember at mem
  split at mem
  · exact replaced mem
  · next sequence found =>
    rcases mem_tables_replace mem with rfl | mem
    · rw [table?_replace_other sameName_users_sequence] at found
      have shape := (sound.of_table? found).2 (name_of_table? found)
      left
      show sequence.shape.foreignKeys = []
      rw [shape]
      rfl
    · exact replaced mem

/-- A new user breaks no reference. -/
theorem checkReferences_enroll (sound : db.Sound) (has : db.HasUsers rows) (row : Sql.Row) :
    db.checkReferences (db.enroll rows row) = .ok () := by
  have known : (db.enroll rows row).dangling.all db.dangling.contains = true := by
    rw [List.all_eq_true]
    intro d mem
    rw [List.contains_iff_mem]
    obtain ⟨t, among, mem⟩ := List.mem_flatMap.1 mem
    obtain ⟨entry, own, mem⟩ := List.mem_flatMap.1 mem
    obtain ⟨other, chosen, rfl⟩ := List.mem_map.1 mem
    obtain ⟨here, dangles⟩ := List.mem_filter.1 chosen
    rcases mem_tables_enroll sound among with none | among
    · rw [none] at own
      cases own
    · have dangled := isDangling_of_enroll sound has dangles
      exact List.mem_flatMap.2 ⟨t, among, List.mem_flatMap.2 ⟨entry, own,
        List.mem_map_of_mem (List.mem_filter.2 ⟨here, dangled⟩)⟩⟩
  rw [checkReferences, known]
  rfl

end References

section Acceptance

variable {s : Store} {accounts : List Account} {name digest : String}

/-- A user is refused only because the name is taken or because no id is left. -/
theorem of_accept_error {problem : Problem} (sound : s.database.Sound)
    (directory : Directory s accounts)
    (refused : accept s accounts name digest = .error problem) :
    (problem.isRepeated = true ∧ ∃ account ∈ accounts, account.name = name) ∨
      Int64.maxValue.toInt < max (greatestId accounts) (s.database.counted (usersTable [])) + 1 := by
  rw [accept, nextId_accounts] at refused
  split at refused
  · simp only [bind, Except.bind, checkReferences_enroll sound directory.has] at refused
    split at refused
    · next taken =>
      obtain ⟨account, mem, same⟩ := List.any_eq_true.1 taken
      rw [← Except.error.inj refused]
      exact .inl ⟨rfl, account, mem, by simpa using same⟩
    · split at refused <;> cases refused
  · next full =>
    right
    have least : Int64.minValue.toInt ≤ greatestId accounts := by
      unfold greatestId
      cases accounts.getLast? with
      | none => decide
      | some account => exact Int64.le_toInt account.id
    have beyond := Number.int64?_eq_none_iff.1 full
    omega

end Acceptance

end Registrar
