import Registrar.Proofs.Sql.Following
import Registrar.Proofs.Sql.Storing
import Registrar.Proofs.Users

/-!
# Sound tables

What every statement leaves true of the tables of a store.  No two columns of a table have one name,
and no two rows one id.  A row has as many cells as its table has columns, each as its column stores
it, and the column of the id shows the id.  What has the name of the table of the greatest ids is that
table, with whatever rows; nobody declares it, since its name is reserved.  Only its rows may share an
id: the store itself adds them, and their ids begin anew behind the greatest there is.
-/

namespace Registrar.Sql

open Registrar.Text

/-- A table without its rows. -/
def Table.shape (t : Table) : Table :=
  { t with rows := [] }

/-- Tables that differ in their rows only have one name and the same columns. -/
theorem Table.of_shape {t u : Table} (same : t.shape = u.shape) :
    t.name = u.name ∧ t.columns = u.columns ∧ t.idColumn = u.idColumn := by
  refine ⟨?_, ?_, ?_⟩
  · show t.shape.name = u.shape.name
    rw [same]
  · show t.shape.columns = u.shape.columns
    rw [same]
  · show t.shape.idColumn = u.shape.idColumn
    rw [same]

/-- A row fits a table: it has a cell for each column, as the column stores it, and shows its id. -/
structure Row.Fits (row : Row) (t : Table) : Prop where
  width : row.cells.length = t.columns.length
  shows : ∀ i, t.idColumn = some i → row.cells[i]? = some (.integer row.id)
  stored : t.withId row.id (t.storedCells row.cells) = row.cells

/-- Columns have different names, and those that are declared to be whole numbers keep them so. -/
structure ProperColumns (columns : List Column) : Prop where
  apart : columns.Pairwise fun c d => sameName c.name d.name = false
  integers : ∀ c ∈ columns, c.declared = "INTEGER" → c.affinity = .integer

/-- The columns are proper, the column of the id is one of those of whole numbers, the rows fit, and
their ids are different. -/
structure Table.Sound (t : Table) : Prop where
  columns : ProperColumns t.columns
  within : ∀ i, t.idColumn = some i → i < t.columns.length
  shown : ∀ i c, t.idColumn = some i → t.columns[i]? = some c → c.declared = "INTEGER"
  rows : ∀ row ∈ t.rows, row.Fits t
  distinct : sameName t.name sequenceName = false → (t.rows.map Row.id).Nodup

/-- Tables are sound, and the name of the table of the greatest ids is its own. -/
def Item.Sound : Item → Prop
  | .table t => t.Sound ∧ (sameName t.name sequenceName = true → t.shape = sequenceTable)
  | .view v => sameName v.name sequenceName = false

/-- What is in a store is sound. -/
def Database.Sound (db : Database) : Prop :=
  ∀ item ∈ db.items, item.Sound

section Rows

variable {t : Table} {row : Row} {rows : List Row}

/-- Cells are stored one for each column. -/
theorem length_storedCells {cells : List Cell} (width : cells.length = t.columns.length) :
    (t.storedCells cells).length = t.columns.length := by
  rw [Table.storedCells, List.length_zipWith, width, Nat.min_self]

/-- Showing the id keeps the number of cells. -/
theorem length_withId (id : Int64) (cells : List Cell) : (t.withId id cells).length = cells.length := by
  unfold Table.withId
  split
  · rw [List.length_set]
  · rfl

/-- A row that is stored fits its table. -/
theorem fits_stored (within : ∀ i, t.idColumn = some i → i < t.columns.length) (id : Int64)
    {cells : List Cell} (width : cells.length = t.columns.length) :
    Row.Fits ⟨id, t.withId id (t.storedCells cells)⟩ t := by
  have stored := length_storedCells width
  refine ⟨?_, fun i own => ?_, Table.withId_storedCells_again id cells⟩
  · show (t.withId id (t.storedCells cells)).length = _
    rw [length_withId, stored]
  · show (t.withId id (t.storedCells cells))[i]? = _
    have inside : i < (t.storedCells cells).length := by
      rw [stored]
      exact within i own
    rw [Table.withId, own]
    exact List.getElem?_set_self inside

/-- A row that is added is among the rows, and so are the others. -/
theorem mem_insertRow {other : Row} : other ∈ Table.insertRow row rows ↔ other = row ∨ other ∈ rows := by
  induction rows with
  | nil => simp [Table.insertRow]
  | cons r rs ih =>
    rw [Table.insertRow]
    split
    · simp
    · rw [List.mem_cons, ih, List.mem_cons]
      exact or_left_comm

/-- Adding a row only puts it somewhere among the others. -/
theorem insertRow_perm (row : Row) (rows : List Row) :
    (Table.insertRow row rows).Perm (row :: rows) := by
  induction rows with
  | nil => exact .refl _
  | cons r rs ih =>
    rw [Table.insertRow]
    split
    · exact .refl _
    · exact (ih.cons r).trans (.swap row r rs)

/-- The ids of rows stay different where a row is added that has none of them. -/
theorem nodup_insertRow (distinct : (rows.map Row.id).Nodup) (fresh : ∀ other ∈ rows, other.id ≠ row.id) :
    ((Table.insertRow row rows).map Row.id).Nodup := by
  refine ((insertRow_perm row rows).map Row.id).nodup_iff.2 (List.nodup_cons.2 ⟨fun mem => ?_, distinct⟩)
  obtain ⟨other, among, same⟩ := List.mem_map.1 mem
  exact fresh other among same

/-- The ids of some of the rows are different where those of all are. -/
theorem nodup_filter (distinct : (rows.map Row.id).Nodup) (keep : Row → Bool) :
    ((rows.filter keep).map Row.id).Nodup :=
  (List.filter_sublist.map Row.id).nodup distinct

namespace Table.Sound

/-- Other rows that fit may be in the place of the rows of a table, if their ids are different. -/
theorem of_rows (sound : t.Sound) (fit : ∀ row ∈ rows, row.Fits t)
    (distinct : sameName t.name sequenceName = false → (rows.map Row.id).Nodup) :
    Table.Sound { t with rows } :=
  ⟨sound.columns, sound.within, sound.shown,
    fun row mem => ⟨(fit row mem).width, (fit row mem).shows, (fit row mem).stored⟩, distinct⟩

/-- A table is sound with some of its rows. -/
theorem filter (sound : t.Sound) (keep : Row → Bool) :
    Table.Sound { t with rows := t.rows.filter keep } :=
  sound.of_rows (fun row mem => sound.rows row (List.mem_filter.1 mem).1)
    fun own => nodup_filter (sound.distinct own) keep

/-- A table is sound without some of its rows. -/
theorem drop (sound : t.Sound) (id : Int64) : (t.drop id).Sound :=
  sound.filter fun other => other.id != id

/-- A table is sound with another row that fits and has an id of its own. -/
theorem insertRow (sound : t.Sound) (fits : row.Fits t)
    (fresh : ∀ other ∈ t.rows, other.id ≠ row.id) :
    Table.Sound { t with rows := Table.insertRow row t.rows } := by
  refine sound.of_rows (fun other mem => ?_) fun own => nodup_insertRow (sound.distinct own) fresh
  rcases mem_insertRow.1 mem with rfl | mem
  · exact fits
  · exact sound.rows other mem

/-- A table is sound with a row that fits in the place of another, if its id is free. -/
theorem exchange (sound : t.Sound) (old : Int64) (fits : row.Fits t) (free : t.IsFree old row.id) :
    (t.exchange old row).Sound := by
  refine (sound.drop old).insertRow ⟨fits.width, fits.shows, fits.stored⟩ fun other mem => ?_
  obtain ⟨among, ne⟩ := List.mem_filter.1 mem
  exact free other among (bne_iff_ne.1 ne)

/-- The column of the id keeps whole numbers. -/
theorem affinity_of_shown (sound : t.Sound) {i : Nat} {c : Column} (shows : t.idColumn = some i)
    (here : t.columns[i]? = some c) : c.affinity = .integer :=
  sound.columns.integers c (List.mem_of_getElem? here) (sound.shown i c shows here)

end Table.Sound

end Rows

namespace Database.Sound

variable {db : Database} {t : Table} {name : String}

/-- A table that is found is sound, and is the table of the greatest ids if it has its name. -/
theorem of_table? (sound : db.Sound) (found : db.table? name = some t) :
    (Item.table t).Sound := by
  rw [Database.table?] at found
  split at found
  · next here =>
    obtain rfl := Option.some.inj found
    have among : Item.table _ ∈ db.items := List.mem_of_find?_eq_some here
    exact sound _ among
  · cases found

/-- A sound table may be put in the place of another. -/
theorem replace (sound : db.Sound) (good : (Item.table t).Sound) : (db.replace t).Sound := by
  intro item mem
  obtain ⟨source, among, rfl⟩ := List.mem_map.1 mem
  split
  · exact good
  · exact sound source among

/-- Other rows that fit may be put in the place of those of a table. -/
theorem replace_rows (sound : db.Sound) (found : db.table? name = some t) {changed : Table}
    (same : changed.shape = t.shape) (good : changed.Sound) : (db.replace changed).Sound := by
  refine sound.replace ⟨good, fun own => ?_⟩
  rw [(Table.of_shape same).1] at own
  rw [same]
  exact (sound.of_table? found).2 own

/-- A table that is found may lose a row. -/
theorem drop (sound : db.Sound) (found : db.table? name = some t) (id : Int64) :
    (db.replace (t.drop id)).Sound :=
  sound.replace_rows found rfl ((sound.of_table? found).1.drop id)

/-- A table that is found may have a row that fits in the place of another. -/
theorem exchange (sound : db.Sound) (found : db.table? name = some t) (old : Int64) {row : Row}
    (fits : row.Fits t) (free : t.IsFree old row.id) : (db.replace (t.exchange old row)).Sound :=
  sound.replace_rows found rfl ((sound.of_table? found).1.exchange old fits free)

/-- An item may be taken away. -/
theorem remove (sound : db.Sound) (name : String) : (db.remove name).Sound :=
  fun item mem => sound item (List.mem_filter.1 mem).1

/-- A sound item may be added. -/
theorem add (sound : db.Sound) {item : Item} (good : item.Sound) : (db.add item).Sound := by
  intro other mem
  rcases List.mem_append.1 mem with mem | mem
  · exact sound other mem
  · rw [List.mem_singleton.1 mem]
    exact good

/-- The greatest ids that were given may be remembered. -/
theorem remember (sound : db.Sound) (t : Table) (counted : Int) : (db.remember t counted).Sound := by
  unfold Database.remember
  split
  · exact sound
  · next sequence found =>
    obtain ⟨good, own⟩ := sound.of_table? found
    have shape : sequence.shape = sequenceTable := own (name_of_table? found)
    obtain ⟨-, columns, idless⟩ := Table.of_shape (u := sequenceTable) shape
    -- two cells fit, and no column shows the id
    have fits (id : Int64) : Row.Fits ⟨id, [.text t.name, .integer (Int64.ofInt counted)]⟩ sequence := by
      refine ⟨?_, fun i shows => ?_, ?_⟩
      · rw [columns]
        rfl
      · rw [idless] at shows
        cases shows
      · rw [Table.withId, idless, Table.storedCells, columns]
        rfl
    have counted : sameName sequence.name sequenceName = true := name_of_table? found
    refine sound.replace_rows found rfl (good.of_rows (fun row mem => ?_) fun other => ?_)
    rotate_left
    · rw [counted] at other
      cases other
    split at mem
    · obtain ⟨source, among, rfl⟩ := List.mem_map.1 mem
      split
      · exact fits source.id
      · exact good.rows source among
    · rcases List.mem_append.1 mem with mem | mem
      · exact good.rows row mem
      · rw [List.mem_singleton.1 mem]
        exact fits _

end Database.Sound

section Changes

variable {db after : Database} {env : Env} {enforcing : Bool}

/-- The columns of the tables that are found in a store are those of the tables that are found in
another. -/
def Database.SameColumns (before db : Database) : Prop :=
  ∀ name t, db.table? name = some t →
    ∃ source, before.table? name = some source ∧ source.columns = t.columns

/-- A table with other rows in the place of a table of a store keeps the columns. -/
theorem sameColumns_replace {before : Database} (same : before.SameColumns db) {name : String}
    {t changed : Table} (found : db.table? name = some t) (shape : changed.shape = t.shape) :
    before.SameColumns (db.replace changed) := by
  obtain ⟨names, columns, -⟩ := Table.of_shape shape
  have own : sameName changed.name name = true := by
    rw [names]
    exact Database.name_of_table? found
  intro other u here
  by_cases alike : sameName changed.name other = true
  · have there : db.table? other = some t := by
      rw [← found, ← Database.table?_congr own, Database.table?_congr alike]
    rw [Database.table?_replace there alike] at here
    obtain rfl := Option.some.inj here
    obtain ⟨source, known, shown⟩ := same other t there
    exact ⟨source, known, shown.trans columns.symm⟩
  · rw [Database.table?_replace_other (by simpa using alike)] at here
    exact same other u here

/-- Changes of single rows leave a store sound, and the columns of its tables as they are. -/
theorem withstands_sound (before : Database) :
    Withstands (fun _ => True)
      (fun name row => ∀ t, before.table? name = some t → row.cells.length = t.columns.length)
      (fun db => db.Sound ∧ before.SameColumns db) where
  referring _ _ _ _ _ := trivial
  rows holds _ found row mem := by
    obtain ⟨sound, same⟩ := holds
    intro t there
    obtain ⟨source, known, columns⟩ := same _ _ found
    obtain rfl := Option.some.inj (known.symm.trans there)
    rw [columns]
    exact ((sound.of_table? found).1.rows row mem).width
  dropped holds _ found id :=
    ⟨holds.1.drop found id, sameColumns_replace holds.2 found rfl⟩
  exchanged holds _ found fits id cells width free := by
    obtain ⟨sound, same⟩ := holds
    obtain ⟨source, known, columns⟩ := same _ _ found
    have wide : cells.length = _ := width.trans ((fits source known).trans (congrArg _ columns))
    exact ⟨sound.exchange found _ (fits_stored (sound.of_table? found).1.within id wide) free,
      sameColumns_replace same found rfl⟩

/-- A store has the columns that it has. -/
theorem sameColumns_self (db : Database) : db.SameColumns db :=
  fun _ t found => ⟨t, found, rfl⟩

/-- New cells are given one for each column. -/
theorem length_newCells {t : Table} {targets : List (Option Nat)} {values cells : List Cell}
    (done : newCells t env targets values = .ok cells) : cells.length = t.columns.length := by
  rw [length_of_mapM done, List.length_zipIdx]

/-- The id that a new row is given, or else the next one. -/
def Table.newId (t : Table) (counted : Int) (targets : List (Option Nat)) (values : List Cell) :
    Except Problem Int64 :=
  match (targets.zip values).find? fun given => given.1 == none with
  | some (_, cell) => if cell.isNull then nextId t counted else givenId cell
  | none => nextId t counted

/-- What inserting a row comes to where it succeeds: the row is made of its values, is checked and is
put among the others. -/
theorem insertOne_cases {t grown : Table} {counted : Int} {targets : List (Option Nat)}
    {exprs : List Expr} {row : Row} (done : insertOne t env counted targets exprs = .ok (grown, row)) :
    ∃ values cells, Expr.evalAll (env.ofRow []) exprs = .ok values ∧
      newCells t env targets values = .ok cells ∧
      t.newId counted targets values = .ok row.id ∧
      row.cells = t.withId row.id (t.storedCells cells) ∧
      t.check env t.rows row = .ok () ∧ grown = { t with rows := Table.insertRow row t.rows } := by
  obtain ⟨values, given, done⟩ := bind_eq_ok done
  obtain ⟨cells, collected, done⟩ := bind_eq_ok done
  have added : (t.newId counted targets values >>= fun id => do
      t.check env t.rows ⟨id, t.withId id (t.storedCells cells)⟩
      .ok ({ t with rows := Table.insertRow ⟨id, t.withId id (t.storedCells cells)⟩ t.rows },
        ⟨id, t.withId id (t.storedCells cells)⟩)) = Except.ok (grown, row) := by
    rw [← done, Table.newId]
    -- the id is given or it is the next one
    generalize (targets.zip values).find? (fun given => given.1 == none) = found
    cases found with
    | none => rfl
    | some given =>
      dsimp only
      cases given.2.isNull <;> rfl
  obtain ⟨id, isId, added⟩ := bind_eq_ok added
  obtain ⟨_, kept, added⟩ := bind_eq_ok added
  obtain ⟨rfl, rfl⟩ := Prod.mk.inj (Except.ok.inj added)
  exact ⟨values, cells, given, collected, isId, rfl, kept, rfl⟩

/-- Inserting a row leaves a table sound, and its shape as it is. -/
theorem of_insertOne {t grown : Table} (sound : t.Sound) {counted : Int}
    {targets : List (Option Nat)} {values : List Expr} {row : Row}
    (done : insertOne t env counted targets values = .ok (grown, row)) :
    grown.Sound ∧ grown.shape = t.shape := by
  obtain ⟨given, cells, -, collected, -, stored, kept, rfl⟩ := insertOne_cases done
  have fits := fits_stored sound.within row.id (length_newCells collected)
  rw [← stored] at fits
  exact ⟨sound.insertRow fits (fresh_of_check kept), rfl⟩

/-- Inserting rows leaves a table sound, and its shape as it is. -/
theorem of_insertAll {targets : List (Option Nat)} {values : List (List Expr)} {t grown : Table}
    (sound : t.Sound) {counted last : Int} {rows : List Row}
    (done : insertAll env targets t counted values = .ok (grown, last, rows)) :
    grown.Sound ∧ grown.shape = t.shape := by
  induction values generalizing t counted rows with
  | nil =>
    rw [← (Prod.mk.inj (Except.ok.inj done)).1]
    exact ⟨sound, rfl⟩
  | cons value values ih =>
    obtain ⟨⟨first, row⟩, one, done⟩ := bind_eq_ok done
    obtain ⟨⟨others, counted', more⟩, rest, done⟩ := bind_eq_ok done
    obtain ⟨rfl, counts⟩ := Prod.mk.inj (Except.ok.inj done)
    obtain ⟨rfl, -⟩ := Prod.mk.inj counts
    obtain ⟨good, shape⟩ := of_insertOne sound one
    obtain ⟨better, same⟩ := ih good rest
    exact ⟨better, same.trans shape⟩

/-- An insertion leaves a store sound. -/
theorem sound_of_insertion {insertion : Insertion} {outcome : Outcome} (sound : db.Sound)
    (done : insertion.run db enforcing env = .ok outcome) : outcome.database.Sound := by
  unfold Insertion.run at done
  split at done
  · cases done
  · next t found =>
    obtain ⟨⟨grown, counted, rows⟩, inserted, done⟩ := bind_eq_ok done
    obtain ⟨good, shape⟩ := of_insertAll (sound.of_table? found).1 inserted
    have stored := sound.replace_rows found shape good
    have counts : (if t.counting then (db.replace grown).remember t counted
        else db.replace grown).Sound := by
      split
      · exact stored.remember t counted
      · exact stored
    dsimp only at done
    generalize (if t.counting then (db.replace grown).remember t counted
      else db.replace grown) = changed at done counts
    -- the references are checked or they are not
    cases enforcing with
    | false =>
      obtain ⟨answer, -, done⟩ := bind_eq_ok done
      rw [← Except.ok.inj done]
      exact counts
    | true =>
      obtain ⟨_, -, done⟩ := bind_eq_ok done
      obtain ⟨answer, -, done⟩ := bind_eq_ok done
      rw [← Except.ok.inj done]
      exact counts

/-- What is filtered is among what it is filtered from. -/
theorem mem_of_filterM {ε α : Type} {test : α → Except ε Bool} {as bs : List α}
    (done : as.filterM test = .ok bs) {b : α} (mem : b ∈ bs) : b ∈ as := by
  have collected : ∀ kept cs, as.filterAuxM test kept = .ok cs → ∀ c ∈ cs, c ∈ as ∨ c ∈ kept := by
    clear done mem
    induction as with
    | nil =>
      intro kept cs same c mem
      rw [← Except.ok.inj same] at mem
      exact .inr mem
    | cons a as ih =>
      intro kept cs done c mem
      obtain ⟨keeps, -, done⟩ := bind_eq_ok done
      rcases ih _ cs done c mem with later | mem
      · exact .inl (List.mem_cons_of_mem a later)
      · cases keeps with
        | false => exact .inr mem
        | true =>
          rcases List.mem_cons.1 mem with rfl | old
          · exact .inl List.mem_cons_self
          · exact .inr old
  obtain ⟨reversed, filtered, done⟩ := bind_eq_ok done
  rw [← Except.ok.inj done, List.mem_reverse] at mem
  rcases collected [] reversed filtered b mem with among | none
  · exact among
  · cases none

/-- The rows that meet a condition are rows of the table. -/
theorem mem_of_meeting {t : Table} {condition : Option Expr} {rows : List Row}
    (done : t.meeting env condition = .ok rows) : ∀ row ∈ rows, row ∈ t.rows := by
  cases condition with
  | none =>
    rw [← Except.ok.inj done]
    exact fun row mem => mem
  | some e => exact fun row mem => mem_of_filterM done mem

/-- A change of rows leaves a store sound. -/
theorem sound_of_revision {revision : Revision} {outcome : Outcome} (sound : db.Sound)
    (done : revision.run db enforcing env = .ok outcome) : outcome.database.Sound := by
  unfold Revision.run at done
  split at done
  · cases done
  · next t found =>
    obtain ⟨chosen, met, done⟩ := bind_eq_ok done
    obtain ⟨⟨changed, rows⟩, revised, done⟩ := bind_eq_ok done
    have widths : ∀ row ∈ chosen, ∀ u, db.table? revision.table = some u →
        row.cells.length = u.columns.length := by
      intro row mem u again
      obtain rfl := Option.some.inj (found.symm.trans again)
      exact ((sound.of_table? found).1.rows row (mem_of_meeting met row mem)).width
    have good := ((withstands_sound db).reviseAll ⟨sound, sameColumns_self db⟩ trivial widths
      revised).1
    cases enforcing with
    | false =>
      obtain ⟨answer, -, done⟩ := bind_eq_ok done
      rw [← Except.ok.inj done]
      exact good
    | true =>
      obtain ⟨_, -, done⟩ := bind_eq_ok done
      obtain ⟨answer, -, done⟩ := bind_eq_ok done
      rw [← Except.ok.inj done]
      exact good

/-- A removal of rows leaves a store sound. -/
theorem sound_of_removal {removal : Removal} {outcome : Outcome} (sound : db.Sound)
    (done : removal.run db enforcing env = .ok outcome) : outcome.database.Sound := by
  unfold Removal.run at done
  split at done
  · cases done
  · next t found =>
    obtain ⟨chosen, -, done⟩ := bind_eq_ok done
    obtain ⟨⟨changed, rows⟩, removed, done⟩ := bind_eq_ok done
    have good := ((withstands_sound db).removeAll ⟨sound, sameColumns_self db⟩ trivial removed).1
    cases enforcing with
    | false =>
      obtain ⟨answer, -, done⟩ := bind_eq_ok done
      rw [← Except.ok.inj done]
      exact good
    | true =>
      obtain ⟨_, -, done⟩ := bind_eq_ok done
      obtain ⟨answer, -, done⟩ := bind_eq_ok done
      rw [← Except.ok.inj done]
      exact good

/-- A store is sound without the greatest id of a table. -/
theorem Database.Sound.forgotten {emptied : Database} (good : emptied.Sound) (t : Table) :
    (match emptied.table? sequenceName with
      | some sequence => emptied.replace { sequence with
          rows := sequence.rows.filter fun row => row.cells.head? != some (Cell.text t.name) }
      | none => emptied).Sound := by
  split
  · next sequence found =>
    have kept := (good.of_table? found).1.filter fun row =>
      row.cells.head? != some (Cell.text t.name)
    exact good.replace_rows found rfl kept
  · exact good

/-- Removing a table leaves a store sound. -/
theorem sound_of_dropTable {t : Table} (sound : db.Sound)
    (done : db.dropTable enforcing env t = .ok after) : after.Sound := by
  unfold Database.dropTable at done
  split at done
  · obtain ⟨⟨emptied, rows⟩, removed, done⟩ := bind_eq_ok done
    obtain ⟨_, -, done⟩ := bind_eq_ok done
    rw [← Except.ok.inj done]
    have good := ((withstands_sound db).removeAll ⟨sound, sameColumns_self db⟩ trivial removed).1
    exact (good.forgotten t).remove t.name
  · rw [← Except.ok.inj done]
    exact (sound.forgotten t).remove t.name

end Changes

section Declarations

variable {name : String} {t u : Table}

namespace Table

/-- No column comes or goes when the columns of the primary key are given their places. -/
theorem length_withKeyPlaces (t : Table) (columns : List Nat) :
    (t.withKeyPlaces columns).columns.length = t.columns.length := by
  rw [Table.withKeyPlaces, List.length_map, List.length_zipIdx]

/-- A column that is given its place in the primary key is otherwise what it was. -/
theorem of_withKeyPlaces {columns : List Nat} {i : Nat} {c : Column}
    (here : (t.withKeyPlaces columns).columns[i]? = some c) :
    ∃ d keyPlace, t.columns[i]? = some d ∧ c = { d with keyPlace } := by
  rw [Table.withKeyPlaces, List.getElem?_map, List.getElem?_zipIdx, Option.map_map,
    Option.map_eq_some_iff] at here
  obtain ⟨d, there, same⟩ := here
  rw [← same]
  dsimp only [Function.comp_apply]
  split
  · exact ⟨d, _, there, rfl⟩
  · exact ⟨d, d.keyPlace, there, rfl⟩

end Table

/-- A table that is being declared: it has its name and no rows, its columns are proper, and the column
of the id is one of those of whole numbers. -/
structure Table.Declared (name : String) (t : Table) : Prop where
  named : t.name = name
  rowless : t.rows = []
  columns : ProperColumns t.columns
  within : ∀ i, t.idColumn = some i → i < t.columns.length
  shown : ∀ i c, t.idColumn = some i → t.columns[i]? = some c → c.declared = "INTEGER"

namespace Table.Declared

/-- A table that has been declared is sound. -/
theorem sound (declared : t.Declared name) : t.Sound := by
  refine ⟨declared.columns, declared.within, declared.shown, fun row mem => ?_, fun _ => ?_⟩
  · rw [declared.rowless] at mem
    cases mem
  · rw [declared.rowless]
    exact List.nodup_nil

/-- What is declared of a table does not depend on its keys, rules and references. -/
theorem of_same (declared : t.Declared name) (names : u.name = t.name) (rows : u.rows = t.rows)
    (columns : u.columns = t.columns) (shows : u.idColumn = t.idColumn) : u.Declared name := by
  obtain ⟨named, rowless, proper, within, shown⟩ := declared
  rw [← columns] at proper within shown
  rw [← shows] at within shown
  exact ⟨names.trans named, rows.trans rowless, proper, within, shown⟩

/-- A key may be added. -/
theorem addKey (declared : t.Declared name) (columns : List Nat) (primary : Bool) :
    (t.addKey columns primary).Declared name := by
  unfold Table.addKey
  split
  · exact declared.of_same rfl rfl rfl rfl
  · exact declared.of_same rfl rfl rfl rfl

/-- The columns of the primary key may be given their places. -/
theorem withKeyPlaces (declared : t.Declared name) (columns : List Nat) :
    (t.withKeyPlaces columns).Declared name := by
  refine ⟨declared.named, declared.rowless, ⟨?_, fun c mem isInteger => ?_⟩, fun i own => ?_,
    fun i c own here => ?_⟩
  · have apart := List.pairwise_iff_getElem.1 declared.columns.apart
    refine List.pairwise_iff_getElem.2 fun i j hi hj less => ?_
    obtain ⟨c, _, first, name⟩ := of_withKeyPlaces (List.getElem?_eq_getElem hi)
    obtain ⟨d, _, second, other⟩ := of_withKeyPlaces (List.getElem?_eq_getElem hj)
    obtain ⟨hi', rfl⟩ := List.getElem?_eq_some_iff.1 first
    obtain ⟨hj', rfl⟩ := List.getElem?_eq_some_iff.1 second
    rw [name, other]
    exact apart i j hi' hj' less
  · obtain ⟨i, here⟩ := List.mem_iff_getElem?.1 mem
    obtain ⟨d, _, there, rfl⟩ := of_withKeyPlaces here
    exact declared.columns.integers d (List.mem_of_getElem? there) isInteger
  · rw [length_withKeyPlaces]
    exact declared.within i own
  · obtain ⟨d, _, there, rfl⟩ := of_withKeyPlaces here
    exact declared.shown i d own there

/-- The primary key may be added: only a column shows the id. -/
theorem addPrimaryKey (declared : t.Declared name) {columns : List Nat} {showsId counting : Bool}
    (done : t.addPrimaryKey columns showsId counting = .ok u) : u.Declared name := by
  have placed := declared.withKeyPlaces columns
  unfold Table.addPrimaryKey at done
  split at done
  · cases done
  · dsimp only at done
    split at done
    · next i =>
      split at done
      · next shows =>
        rw [Bool.and_eq_true] at shows
        rw [← Except.ok.inj done]
        refine ⟨placed.named, placed.rowless, placed.columns, fun j own => ?_, fun j c own here => ?_⟩
        · obtain rfl : i = j := Option.some.inj own
          refine Nat.lt_of_not_le fun beyond => ?_
          have missing : (t.withKeyPlaces [i]).columns[i]? = none := List.getElem?_eq_none beyond
          rw [missing] at shows
          cases shows.2
        · obtain rfl : i = j := Option.some.inj own
          have here : (t.withKeyPlaces [i]).columns[i]? = some c := here
          rw [here] at shows
          exact beq_iff_eq.1 shows.2
      · split at done
        · cases done
        · rw [← Except.ok.inj done]
          exact placed.addKey _ _
    · split at done
      · cases done
      · rw [← Except.ok.inj done]
        exact placed.addKey _ _

end Table.Declared

/-- A primary key changes nothing of the columns but their places in it, and not the declaration. -/
theorem of_addPrimaryKey {t u : Table} {columns : List Nat} {showsId counting : Bool}
    (done : t.addPrimaryKey columns showsId counting = .ok u) :
    u.columns = (t.withKeyPlaces columns).columns ∧ u.declaration = t.declaration := by
  have keyed : ((t.withKeyPlaces columns).addKey columns true).columns =
      (t.withKeyPlaces columns).columns ∧
        ((t.withKeyPlaces columns).addKey columns true).declaration = t.declaration := by
    unfold Table.addKey
    split
    · exact ⟨rfl, rfl⟩
    · exact ⟨rfl, rfl⟩
  unfold Table.addPrimaryKey at done
  dsimp only at done
  split at done
  · cases done
  · split at done
    · split at done
      · rw [← Except.ok.inj done]
        exact ⟨rfl, rfl⟩
      · split at done
        · cases done
        · rw [← Except.ok.inj done]
          exact keyed
    · split at done
      · cases done
      · rw [← Except.ok.inj done]
        exact keyed

/-- Whether the expression of a rule for every row has a property, if the rule is one. -/
def ColumnRule.Checks (Q : Expr → Prop) : ColumnRule → Prop
  | .check _ e => Q e
  | _ => True

/-- Whether the expression of a rule for every row has a property, if the rule is one. -/
def TableRule.Checks (Q : Expr → Prop) : TableRule → Prop
  | .check _ e => Q e
  | _ => True

/-- A property of a table that is being declared with rules for every row of some kind: it does not
look at keys and references, the primary key may be added, and so may such rules. -/
structure Declaring (Q : Expr → Prop) (P : Table → Prop) : Prop where
  of_same : ∀ {t u}, P t → u.name = t.name → u.rows = t.rows → u.columns = t.columns →
    u.idColumn = t.idColumn → u.checks = t.checks → u.declaration = t.declaration → P u
  addPrimaryKey : ∀ {t u columns showsId counting}, P t →
    t.addPrimaryKey columns showsId counting = .ok u → P u
  addCheck : ∀ {t rule e}, P t → Q e → P { t with checks := t.checks ++ [(rule, e)] }
  resolveChecks : ∀ {t checks}, P t → t.resolveChecks t.checks = .ok checks → P { t with checks }

namespace Declaring

variable {Q : Expr → Prop} {P : Table → Prop}

/-- A key may be added. -/
theorem addKey (declaring : Declaring Q P) (holds : P t) (columns : List Nat) (primary : Bool) :
    P (t.addKey columns primary) := by
  unfold Table.addKey
  split
  · exact declaring.of_same holds rfl rfl rfl rfl rfl rfl
  · exact declaring.of_same holds rfl rfl rfl rfl rfl rfl

/-- The rules of a column may be added. -/
theorem addColumnRules (declaring : Declaring Q P) (holds : P t) {i : Nat} {column : String}
    {rules : List ColumnRule} (kind : ∀ rule ∈ rules, rule.Checks Q)
    (done : t.addColumnRules i column rules = .ok u) : P u := by
  induction rules generalizing t with
  | nil =>
    rw [← Except.ok.inj done]
    exact holds
  | cons rule rules ih =>
    obtain ⟨first, others⟩ := List.forall_mem_cons.1 kind
    cases rule with
    | primaryKey descending counting =>
      obtain ⟨keyed, key, done⟩ := bind_eq_ok done
      exact ih (declaring.addPrimaryKey holds key) others done
    | unique => exact ih (declaring.addKey holds _ _) others done
    | check rule e =>
      exact ih (t := { t with checks := t.checks ++ [(rule, e)] }) (declaring.addCheck holds first)
        others done
    | references reference =>
      change (if 1 < reference.columns.length then _
        else (t.addReference [i] reference).addColumnRules i column rules) = _ at done
      split at done
      · cases done
      · exact ih (t := t.addReference [i] reference) (declaring.of_same holds rfl rfl rfl rfl rfl rfl)
          others done
    | _ => exact ih holds others done

/-- The rules of all columns may be added. -/
theorem addAllColumnRules (declaring : Declaring Q P) (holds : P t) {i : Nat}
    {decls : List ColumnDecl} (kind : ∀ decl ∈ decls, ∀ rule ∈ decl.rules, rule.Checks Q)
    (done : t.addAllColumnRules i decls = .ok u) : P u := by
  induction decls generalizing t i with
  | nil =>
    rw [← Except.ok.inj done]
    exact holds
  | cons decl decls ih =>
    obtain ⟨first, others⟩ := List.forall_mem_cons.1 kind
    obtain ⟨ruled, rules, done⟩ := bind_eq_ok done
    exact ih (declaring.addColumnRules holds first rules) others done

/-- The rules of a table may be added. -/
theorem addTableRules (declaring : Declaring Q P) (holds : P t) {rules : List TableRule}
    (kind : ∀ rule ∈ rules, rule.Checks Q) (done : t.addTableRules rules = .ok u) : P u := by
  induction rules generalizing t with
  | nil =>
    rw [← Except.ok.inj done]
    exact holds
  | cons rule rules ih =>
    obtain ⟨first, others⟩ := List.forall_mem_cons.1 kind
    cases rule with
    | primaryKey names counting =>
      obtain ⟨columns, -, done⟩ := bind_eq_ok done
      obtain ⟨keyed, key, done⟩ := bind_eq_ok done
      exact ih (declaring.addPrimaryKey holds key) others done
    | unique names =>
      obtain ⟨columns, -, done⟩ := bind_eq_ok done
      exact ih (declaring.addKey holds _ _) others done
    | check rule e =>
      exact ih (t := { t with checks := t.checks ++ [(rule, e)] }) (declaring.addCheck holds first)
        others done
    | foreignKey names reference =>
      unfold Table.addTableRules at done
      split at done
      · cases done
      · obtain ⟨columns, -, done⟩ := bind_eq_ok done
        exact ih (t := t.addReference columns reference)
          (declaring.of_same holds rfl rfl rfl rfl rfl rfl) others done

/-- A table that is declared has the property if it has it with its columns alone, and its rules for
every row are of the kind. -/
theorem of_declareTable (declaring : Declaring Q P) {declaration : String} {decls : List ColumnDecl}
    {rules : List TableRule}
    (bare : ∀ columns, declareColumns [] decls = .ok columns →
      P { name, columns, idColumn := none, counting := false, keys := [], checks := [],
          foreignKeys := [], rows := [], declaration })
    (ofColumns : ∀ decl ∈ decls, ∀ rule ∈ decl.rules, rule.Checks Q)
    (ofTable : ∀ rule ∈ rules, rule.Checks Q)
    (done : declareTable name declaration decls rules = .ok t) : P t := by
  obtain ⟨columns, listed, done⟩ := bind_eq_ok done
  obtain ⟨ruled, first, done⟩ := bind_eq_ok done
  obtain ⟨complete, second, done⟩ := bind_eq_ok done
  obtain ⟨checks, resolved, done⟩ := bind_eq_ok done
  have whole := declaring.addTableRules
    (declaring.addAllColumnRules (bare columns listed) ofColumns first) ofTable second
  rw [← Except.ok.inj done]
  exact declaring.resolveChecks whole resolved

/-- A property that does not look at the rules for every row is one of declared tables whatever their
rules are. -/
theorem of_declareTable_unchecked
    (of_same : ∀ {t u}, P t → u.name = t.name → u.rows = t.rows → u.columns = t.columns →
      u.idColumn = t.idColumn → u.declaration = t.declaration → P u)
    (addPrimaryKey : ∀ {t u columns showsId counting}, P t →
      t.addPrimaryKey columns showsId counting = .ok u → P u)
    {declaration : String} {decls : List ColumnDecl} {rules : List TableRule}
    (bare : ∀ columns, declareColumns [] decls = .ok columns →
      P { name, columns, idColumn := none, counting := false, keys := [], checks := [],
          foreignKeys := [], rows := [], declaration })
    (done : declareTable name declaration decls rules = .ok t) : P t := by
  have declaring : Declaring (fun _ => True) P :=
    ⟨fun holds name rows columns id _ text => of_same holds name rows columns id text, addPrimaryKey,
      fun holds _ => of_same holds rfl rfl rfl rfl rfl,
      fun holds _ => of_same holds rfl rfl rfl rfl rfl⟩
  refine declaring.of_declareTable bare (fun decl _ rule _ => ?_) (fun rule _ => ?_) done
  · cases rule <;> trivial
  · cases rule <;> trivial

end Declaring

/-- The rules of a column change neither its name nor its type. -/
theorem of_column {decl : ColumnDecl} {rules : List ColumnRule} {bare column : Column}
    (done : decl.column rules bare = .ok column) :
    column.name = bare.name ∧ column.declared = bare.declared ∧ column.affinity = bare.affinity := by
  induction rules generalizing bare with
  | nil =>
    rw [← Except.ok.inj done]
    exact ⟨rfl, rfl, rfl⟩
  | cons rule rules ih =>
    have goesOn {next : Column} (done : decl.column rules next = .ok column)
        (same : next.name = bare.name ∧ next.declared = bare.declared ∧
          next.affinity = bare.affinity) :
        column.name = bare.name ∧ column.declared = bare.declared ∧
          column.affinity = bare.affinity := by
      obtain ⟨names, type, affinity⟩ := ih done
      exact ⟨names.trans same.1, type.trans same.2.1, affinity.trans same.2.2⟩
    cases rule with
    | default source e =>
      rw [ColumnDecl.column] at done
      split at done
      · exact goesOn done ⟨rfl, rfl, rfl⟩
      · cases done
    | collate collation =>
      rw [ColumnDecl.column] at done
      split at done
      · exact goesOn done ⟨rfl, rfl, rfl⟩
      · exact goesOn done ⟨rfl, rfl, rfl⟩
      · exact goesOn done ⟨rfl, rfl, rfl⟩
      · cases done
    | notNull =>
      rw [ColumnDecl.column] at done
      exact goesOn done ⟨rfl, rfl, rfl⟩
    | _ => exact ih done

/-- A column whose type is shown as that of whole numbers keeps whole numbers. -/
theorem affinity_bare {decl : ColumnDecl} (isInteger : decl.bare.declared = "INTEGER") :
    decl.bare.affinity = .integer := by
  have capitals : upperAscii decl.declared = "INTEGER" := by
    have shown : shownType decl.declared = "INTEGER" := isInteger
    rw [shownType] at shown
    split at shown
    · exact shown
    · rw [shown]
      decide
  have other : ¬ upperAscii decl.declared = "ANY" := by
    rw [capitals]
    decide
  show (if upperAscii decl.declared = "ANY" then Affinity.numeric
    else Affinity.ofDeclared decl.declared) = _
  rw [if_neg other, Affinity.ofDeclared, capitals]
  decide

/-- The columns that are declared are proper. -/
theorem proper_declareColumns {decls : List ColumnDecl} {known columns : List Column}
    (proper : ProperColumns known) (done : declareColumns known decls = .ok columns) :
    ProperColumns columns := by
  induction decls generalizing known with
  | nil =>
    rw [← Except.ok.inj done]
    exact proper
  | cons decl decls ih =>
    rw [declareColumns] at done
    split at done
    · cases done
    · next fresh =>
      obtain ⟨column, ruled, done⟩ := bind_eq_ok done
      obtain ⟨names, type, affinity⟩ := of_column ruled
      refine ih ⟨List.pairwise_append.2 ⟨proper.apart, List.pairwise_singleton _ _, ?_⟩, ?_⟩ done
      · intro c mem d last
        rw [List.mem_singleton.1 last, names]
        rw [Bool.not_eq_true, List.any_eq_false] at fresh
        exact Bool.eq_false_iff.2 (fresh c mem)
      · intro c mem isInteger
        rcases List.mem_append.1 mem with mem | last
        · exact proper.integers c mem isInteger
        · rw [List.mem_singleton.1 last] at isInteger ⊢
          rw [affinity]
          exact affinity_bare (type.symm.trans isInteger)

/-- A table is declared as its declaration says. -/
theorem declared_of_declareTable {declaration : String} {decls : List ColumnDecl}
    {rules : List TableRule} (done : declareTable name declaration decls rules = .ok t) :
    t.Declared name := by
  refine Declaring.of_declareTable_unchecked
    (fun declared name rows columns id _ => declared.of_same name rows columns id)
    (fun declared key => declared.addPrimaryKey key) (fun columns listed => ?_) done
  exact ⟨rfl, rfl, proper_declareColumns ⟨.nil, nofun⟩ listed, nofun, nofun⟩

/-- Names that are the same are reserved alike. -/
theorem isReservedName_congr {a b : String} (same : sameName a b = true) :
    isReservedName a = isReservedName b := by
  rw [sameName, beq_iff_eq] at same
  rw [isReservedName, isReservedName, same]

/-- A name that may be declared is free and not reserved, and one that is passed over is there. -/
theorem Database.checkName_cases {db : Database} {written : WrittenName} {ifMissing free : Bool}
    (checked : db.checkName written ifMissing = .ok free) :
    isReservedName written.name = false ∧ (db.find? written.name).isSome = !free := by
  unfold Database.checkName at checked
  split at checked
  · cases checked
  · next unreserved =>
    refine ⟨by simpa using unreserved, ?_⟩
    split at checked
    · next none =>
      rw [none, ← Except.ok.inj checked]
      rfl
    · next item here =>
      split at checked
      · rw [here, ← Except.ok.inj checked]
        rfl
      · cases checked

/-- A name that is free is not reserved, so that it is not that of the greatest ids. -/
theorem of_checkName {db : Database} {written : WrittenName} {ifMissing : Bool}
    (free : db.checkName written ifMissing = .ok true) :
    sameName written.name sequenceName = false := by
  rw [Bool.eq_false_iff]
  intro same
  have reserved : isReservedName sequenceName = true := by decide
  rw [← isReservedName_congr same, (Database.checkName_cases free).1] at reserved
  cases reserved

/-- A declaration of a table leaves a store sound. -/
theorem sound_of_createTable {db after : Database} (sound : db.Sound) {declaration : String}
    {written : WrittenName} {ifMissing : Bool} {decls : List ColumnDecl} {rules : List TableRule}
    (done : db.createTable declaration written ifMissing decls rules = .ok after) : after.Sound := by
  obtain ⟨free, checked, done⟩ := bind_eq_ok done
  cases free with
  | false =>
    rw [← Except.ok.inj done]
    exact sound
  | true =>
    obtain ⟨t, declares, done⟩ := bind_eq_ok done
    have declared := declared_of_declareTable declares
    have other : sameName t.name sequenceName = false := by
      rw [declared.named]
      exact of_checkName checked
    have columns : ProperColumns sequenceTable.columns := ⟨by decide, by decide⟩
    have counter : (Item.table sequenceTable).Sound :=
      ⟨⟨columns, nofun, nofun, nofun, fun _ => List.nodup_nil⟩, fun _ => rfl⟩
    have good : (Item.table t).Sound := by
      refine ⟨declared.sound, fun own => ?_⟩
      rw [other] at own
      cases own
    rw [← Except.ok.inj done, Database.addTable]
    split
    · exact (sound.add counter).add good
    · exact sound.add good

/-- A declaration of a view leaves a store sound. -/
theorem sound_of_createView {db after : Database} (sound : db.Sound) {declaration : String}
    {written : WrittenName} {ifMissing : Bool} {columns : List String} {query : Select}
    (done : db.createView declaration written ifMissing columns query = .ok after) :
    after.Sound := by
  obtain ⟨free, checked, done⟩ := bind_eq_ok done
  cases free with
  | false =>
    rw [← Except.ok.inj done]
    exact sound
  | true =>
    rw [← Except.ok.inj done]
    exact sound.add (of_checkName checked)

end Declarations

end Registrar.Sql
