import Registrar.Proofs.Projecting
import Registrar.Proofs.Sql.Shapes

/-!
# What an insertion keeps of what it is given

An insertion gives the columns of the new row the values that it has for them, and leaves out the column
that identifies a row.  Where this column shows the id of the row the store gives the id.  Where it does
not, what is given to the column is lost: the row has the default of the column there, or nothing.
-/

namespace Registrar

open Registrar.Text Registrar.Sql Registrar.Sql.Database

section Identity

namespace Sql

/-- The place of the column that identifies a row: the first of the primary key, else the first of
all. -/
def Table.identityPlace (t : Table) : Nat :=
  (t.columns.findIdx? fun c => decide (c.keyPlace ≠ 0)).getD 0

/-- The column that shows the id, if one does, is the first column of the primary key. -/
def Table.ShowsIdentity (t : Table) : Prop :=
  ∀ i, t.idColumn = some i → (t.columns.findIdx? fun c => decide (c.keyPlace ≠ 0)) = some i

namespace Table.ShowsIdentity

variable {t u : Table}

/-- The property does not depend on keys, rules, references and rows. -/
theorem of_same (shows : t.ShowsIdentity) (columns : u.columns = t.columns)
    (id : u.idColumn = t.idColumn) : u.ShowsIdentity := by
  intro i own
  rw [columns]
  exact shows i (id.symm.trans own)

/-- A key may be added. -/
theorem addKey (shows : t.ShowsIdentity) (columns : List Nat) (primary : Bool) :
    (t.addKey columns primary).ShowsIdentity := by
  unfold Table.addKey
  split
  · exact shows.of_same rfl rfl
  · exact shows.of_same rfl rfl

/-- Before there is a primary key no column shows the id. -/
theorem idColumn_eq_none (shows : t.ShowsIdentity)
    (keyless : (t.columns.any fun c => decide (c.keyPlace ≠ 0)) = false) : t.idColumn = none := by
  cases own : t.idColumn with
  | none => rfl
  | some i =>
    have place := shows i own
    rw [List.findIdx?_eq_some_iff_getElem] at place
    obtain ⟨inside, isKey, -⟩ := place
    rw [List.any_eq_false] at keyless
    exact absurd isKey (keyless _ (List.getElem_mem inside))

/-- A column that is alone in the primary key is its first. -/
theorem findIdx?_withKeyPlaces (keyless : (t.columns.any fun c => decide (c.keyPlace ≠ 0)) = false)
    {i : Nat} (inside : i < t.columns.length) :
    ((t.withKeyPlaces [i]).columns.findIdx? fun c => decide (c.keyPlace ≠ 0)) = some i := by
  have width : (t.withKeyPlaces [i]).columns.length = t.columns.length := by
    rw [Table.withKeyPlaces, List.length_map, List.length_zipIdx]
  rw [List.findIdx?_eq_some_iff_getElem]
  refine ⟨by omega, ?_, fun j before => ?_⟩
  · simp [Table.withKeyPlaces, List.idxOf?, List.findIdx?_cons]
  · have outside : t.columns[j].keyPlace = 0 := by
      rw [List.any_eq_false] at keyless
      simpa using keyless _ (List.getElem_mem (by omega : j < t.columns.length))
    have other : ([i] : List Nat).idxOf? j = none := by
      rw [List.idxOf?_eq_none_iff, List.mem_singleton]
      omega
    simp only [Table.withKeyPlaces, List.getElem_map, List.getElem_zipIdx, Nat.zero_add, other, outside]
    decide

/-- The primary key may be added. -/
theorem addPrimaryKey (shows : t.ShowsIdentity) {columns : List Nat} {showsId counting : Bool}
    (done : t.addPrimaryKey columns showsId counting = .ok u) : u.ShowsIdentity := by
  unfold Table.addPrimaryKey at done
  split at done
  · cases done
  · next keyless =>
    rw [Bool.not_eq_true] at keyless
    have idless : (t.withKeyPlaces columns).ShowsIdentity := by
      intro i own
      have none : t.idColumn = some i := own
      rw [shows.idColumn_eq_none keyless] at none
      cases none
    dsimp only at done
    split at done
    · next i =>
      split at done
      · next isInteger =>
        rw [← Except.ok.inj done]
        intro j own
        obtain rfl : i = j := Option.some.inj own
        refine findIdx?_withKeyPlaces keyless (Nat.lt_of_not_le fun beyond => ?_)
        have missing : (t.withKeyPlaces [i]).columns[i]? = none := by
          rw [List.getElem?_eq_none_iff, Table.withKeyPlaces, List.length_map, List.length_zipIdx]
          exact beyond
        rw [missing, Bool.and_eq_true] at isInteger
        cases isInteger.2
      · split at done
        · cases done
        · rw [← Except.ok.inj done]
          exact idless.addKey _ _
    · split at done
      · cases done
      · rw [← Except.ok.inj done]
        exact idless.addKey _ _

end Table.ShowsIdentity

/-- A table that is declared shows the id in the first column of its primary key, if in any. -/
theorem showsIdentity_of_declareTable {name declaration : String} {decls : List ColumnDecl}
    {rules : List TableRule} {t : Table}
    (done : declareTable name declaration decls rules = .ok t) : t.ShowsIdentity := by
  exact Declaring.of_declareTable_unchecked (fun shows _ _ columns id _ => shows.of_same columns id)
    (fun shows key => shows.addPrimaryKey key) (fun columns _ => nofun) done

/-- What is in a store shows the id in the first column of its primary key, if in any. -/
def Item.ShowsIdentity : Item → Prop
  | .table t => t.ShowsIdentity
  | .view _ => True

/-- Every table that there can be shows the id in the first column of its primary key, if in any. -/
theorem Store.Reached.showsIdentity {s : Store} (reached : s.Reached) {name : String} {t : Table}
    (found : s.database.table? name = some t) : t.ShowsIdentity := by
  have lasting : Lasting Item.ShowsIdentity := by
    intro t u same shows
    obtain ⟨-, columns, id⟩ := Table.of_shape same
    exact Table.ShowsIdentity.of_same shows columns id
  have counter : (Item.table sequenceTable).ShowsIdentity := by
    intro i shows
    cases shows
  exact (reached.all lasting counter showsIdentity_of_declareTable fun _ => trivial).1.of_table? found

end Sql

end Identity

namespace Call

variable {session after : Session} {table : String} {t : Sql.Table} {values : Entries Value}
  {info : TableInfo} {i : Nat} {c : Column}

section Giving

/-- The column that identifies a row is the one in its place. -/
theorem identity_of_columns (columns : info.columns = t.columns.map ColumnInfo.ofColumn) :
    ∃ d, t.columns[t.identityPlace]? = some d ∧ info.identity = ColumnInfo.ofColumn d := by
  have search : info.columns.find? ColumnInfo.primaryKey =
      (t.columns.find? fun c => decide (c.keyPlace ≠ 0)).map ColumnInfo.ofColumn := by
    rw [columns, List.find?_map]
    rfl
  rw [TableInfo.identity, search, Table.identityPlace]
  cases key : t.columns.findIdx? fun c => decide (c.keyPlace ≠ 0) with
  | none =>
    have keyless : (t.columns.find? fun c => decide (c.keyPlace ≠ 0)) = none := by
      rw [List.find?_eq_none]
      intro other mem
      rw [Bool.not_eq_true]
      exact List.findIdx?_eq_none_iff.mp key other mem
    have first : info.columns[0]? = some info.first := rfl
    rw [columns, List.getElem?_map, Option.map_eq_some_iff] at first
    obtain ⟨d, here, isFirst⟩ := first
    exact ⟨d, here, by rw [keyless, isFirst]; rfl⟩
  | some j =>
    obtain ⟨inside, isKey, before⟩ := List.findIdx?_eq_some_iff_getElem.mp key
    have found : (t.columns.find? fun c => decide (c.keyPlace ≠ 0)) = some t.columns[j] := by
      rw [List.find?_eq_some_iff_getElem]
      exact ⟨isKey, j, inside, rfl, fun k less => by simpa using before k less⟩
    exact ⟨t.columns[j], List.getElem?_eq_getElem inside, by rw [found]; rfl⟩

/-- A column has the name of the one that identifies a row only if it is that one. -/
theorem name_ne_identity_iff (apart : t.columns.Pairwise fun c d => sameName c.name d.name = false)
    (columns : info.columns = t.columns.map ColumnInfo.ofColumn) (column : t.columns[i]? = some c) :
    c.name ≠ info.identity.name ↔ i ≠ t.identityPlace := by
  obtain ⟨d, place, identity⟩ := identity_of_columns columns
  rw [identity]
  show c.name ≠ d.name ↔ _
  constructor
  · rintro differ rfl
    exact differ (congrArg Column.name (Option.some.inj (column.symm.trans place)))
  · intro other same
    have here := columnIndex?_of_column apart column
    rw [same, columnIndex?_of_column apart place] at here
    exact other (Option.some.inj here).symm

/-- A column is none of those that are given where another name is given for each of these. -/
theorem not_mem_targets (apart : t.columns.Pairwise fun c d => sameName c.name d.name = false)
    (column : t.columns[i]? = some c) {names : List String}
    (among : ∀ name ∈ names, name ∈ t.columns.map Column.name) (absent : c.name ∉ names) :
    some (some i) ∉ t.targets names := by
  intro mem
  obtain ⟨name, own, means⟩ := List.mem_map.mp mem
  obtain ⟨d, isColumn, rfl⟩ := List.mem_map.mp (among name own)
  obtain ⟨j, here⟩ := List.mem_iff_getElem?.mp isColumn
  rw [targetColumn_of_column apart here] at means
  split at means
  · cases means
  · obtain rfl : j = i := Option.some.inj (Option.some.inj means)
    obtain rfl := Option.some.inj (column.symm.trans here)
    exact absent own

/-- A table that has columns is described, unless its name is refused. -/
theorem rejected_of_describe {db : Database} {f : Failure} (found : db.table? table = some t)
    (column : t.columns[i]? = some c) (described : db.describe table = .error f) :
    ∃ rejection, f = .rejected rejection := by
  have columns : db.columnInfo table = t.columns.map ColumnInfo.ofColumn := by
    rw [Database.columnInfo, find?_of_table? found]
  rw [Database.describe, identifier] at described
  split at described
  · simp only [columns, bind, Except.bind] at described
    cases own : t.columns with
    | nil =>
      rw [own] at column
      cases column
    | cons first others =>
      rw [own] at described
      cases described
  · exact ⟨_, (Except.error.inj described).symm⟩

/-- Columns without a default have to be given. -/
theorem insertPairs_of_missing {columns : List ColumnInfo} {column : ColumnInfo}
    (among : column ∈ columns) (required : column.isRequired = true)
    (absent : values.get? column.name = none) :
    ∃ name, insertPairs table values columns = .error (.rejected (.missingColumn name table)) := by
  have some : (columns.find? fun column =>
      column.isRequired && (values.get? column.name).isNone).isSome = true :=
    List.find?_isSome.2 ⟨column, among, by rw [required, absent]; rfl⟩
  obtain ⟨first, found⟩ := Option.isSome_iff_exists.1 some
  exact ⟨first.name, by rw [insertPairs_eq, found]⟩

/-- What refuses the values of an insertion leaves everything as it is. -/
theorem outcome_insert_of_refused {f : Failure}
    (refused : (session.store.database.describe table >>= fun info =>
      insertPairs table values info.insertColumns) = .error f) :
    (insert table values).outcome session = (.error f, session) := by
  cases described : session.store.database.describe table with
  | error g =>
    rw [described] at refused
    cases refused
    rw [insert, outcome_bind, outcome_store]
    dsimp only
    rw [described, outcome_bind, outcome_lift]
  | ok info =>
    rw [described] at refused
    have refused : insertPairs table values info.insertColumns = .error f := refused
    rw [outcome_insert described, refused]

end Giving

end Call

/-- A column of a new row keeps what it is given, as it stores that; a column that is given nothing has
a default, and the row has it there. -/
def Sql.Table.Keeps (env : Env) (values : Entries Value) (row : Sql.Row) (i : Nat) (c : Column) : Prop :=
  match values.get? c.name with
  | some value => row.cells[i]? = some (Cell.store c.affinity value.stored)
  | none => c.default.isSome = true ∧
    ∃ cell, c.initial env = .ok cell ∧ row.cells[i]? = some (Cell.store c.affinity cell)

namespace Call

variable {session after : Session} {table : String} {t : Sql.Table} {values : Entries Value}
  {info : TableInfo} {i : Nat} {c : Column}

/-- A column may be given by an insertion unless it is the one that identifies a row. -/
theorem mem_insertColumns (apart : t.columns.Pairwise fun c d => sameName c.name d.name = false)
    (columns : info.columns = t.columns.map ColumnInfo.ofColumn) (column : t.columns[i]? = some c)
    (other : i ≠ t.identityPlace) : ColumnInfo.ofColumn c ∈ info.insertColumns := by
  refine List.mem_filter.mpr ⟨?_, ?_⟩
  · rw [columns]
    exact List.mem_map_of_mem (List.mem_of_getElem? column)
  · exact bne_iff_ne.mpr ((name_ne_identity_iff apart columns column).mpr other)

/-- The row that an insertion adds keeps what is given to its columns, except the one that identifies a
row. -/
theorem keeps_of_insert {id : Int64} (sound : session.store.database.Sound)
    (found : session.store.database.table? table = some t)
    (bare : BareGiven session.store.database table values)
    (done : (insert table values).outcome session = (.ok id, after)) :
    ∃ row parameters, row.id = id ∧ (∀ other ∈ t.rows, other.id ≠ id) ∧ row.Fits t ∧
      after.store.database = session.store.database.withRow t row ∧
      ∀ i c, t.columns[i]? = some c → t.idColumn ≠ some i →
        if i = t.identityPlace then
          ∃ cell, c.initial (session.store.env parameters) = .ok cell ∧
            row.cells[i]? = some (Cell.store c.affinity cell)
        else Table.Keeps (session.store.env parameters) values row i c := by
  obtain ⟨own, -⟩ := sound.of_table? found
  have apart := own.columns.apart
  obtain ⟨info, pairs, row, described, listed, receives, isId, fresh, stored⟩ :=
    of_insert sound found bare done
  obtain ⟨-, columns⟩ := columns_of_describe found described
  obtain ⟨sublist, each⟩ := of_insertPairs listed
  have names : (storedPairs pairs).map Prod.fst = pairs.map Prod.fst := by
    rw [storedPairs, List.map_map]
    rfl
  have among : ∀ name ∈ pairs.map Prod.fst, name ∈ t.columns.map Column.name :=
    (sublist.trans (insertColumns_sublist columns)).subset
  refine ⟨row, (storedPairs pairs).map Prod.snd, isId, fresh, receives.fits, stored,
    fun i c column idless => ?_⟩
  have initial (absent : c.name ∉ pairs.map Prod.fst) :
      ∃ cell, c.initial (session.store.env ((storedPairs pairs).map Prod.snd)) = .ok cell ∧
        row.cells[i]? = some (Cell.store c.affinity cell) := by
    refine receives.others i c ?_ idless column
    rw [names]
    exact not_mem_targets apart column among absent
  split
  · next identity =>
    -- no column that may be given has the name of the one that is left out
    refine initial fun mem => ?_
    obtain ⟨given, may, same⟩ := List.mem_map.mp (sublist.subset mem)
    have differs := (List.mem_filter.mp may).2
    rw [same, bne_iff_ne, name_ne_identity_iff apart columns column] at differs
    exact differs identity
  · next other =>
    have may := mem_insertColumns apart columns column other
    rw [Table.Keeps]
    cases given : values.get? c.name with
    | some value =>
      have mem : (c.name, value) ∈ pairs :=
        mem_of_insertPairs listed (List.mem_map_of_mem may) given
      exact receives.cell_of_given apart column idless (List.mem_map_of_mem mem)
    | none =>
      have absent : c.name ∉ pairs.map Prod.fst := by
        intro mem
        obtain ⟨pair, isPair, same⟩ := List.mem_map.mp mem
        have isGiven := each pair isPair
        rw [same, given] at isGiven
        cases isGiven
      refine ⟨?_, initial absent⟩
      by_contra bare
      have required : (ColumnInfo.ofColumn c).isRequired = true := by
        simpa [ColumnInfo.isRequired, ColumnInfo.ofColumn] using bare
      obtain ⟨name, refused⟩ := insertPairs_of_missing may required given
      rw [listed] at refused
      cases refused

end Call

section Codes

/-- The declaration of a table of codes, which are not whole numbers. -/
def codesText : String :=
  "CREATE TABLE codes (code TEXT PRIMARY KEY, label TEXT)"

/-- A table of codes with labels. -/
def codesTable : Sql.Table :=
  ⟨"codes", [⟨"code", "TEXT", .text, .binary, false, 1, none⟩,
    ⟨"label", "TEXT", .text, .binary, false, 0, none⟩], none, false, [⟨[0], true⟩], [], [], [], codesText⟩

/-- A store of no codes yet. -/
def uncoded : Session :=
  ⟨.opened ⟨[.table codesTable]⟩, []⟩

/-- There can be such a store. -/
theorem reached_uncoded : uncoded.store.Reached := by
  have declares : (Store.opened .empty).prepare codesText (.createTable ⟨"codes", "codes", 13⟩ false
      [⟨"code", "TEXT", [.primaryKey false false]⟩, ⟨"label", "TEXT", []⟩] []) =
        .ok (.become ⟨[.table codesTable]⟩) := rfl
  have declared : (Store.opened .empty).run [] (.become ⟨[.table codesTable]⟩) =
      .ok (.none, uncoded.store) := rfl
  exact .ran .opened declares declared

/-- The declaration of a table of tags, two of whose columns have one name as it is written. -/
def tagsText : String :=
  "CREATE TABLE tags (tags_id INTEGER PRIMARY KEY, a TEXT DEFAULT 'x', \"[a]\" TEXT)"

/-- A store of no tags yet. -/
def untagged : Session :=
  ⟨((Store.opened .empty).script tagsText).1, []⟩

/-- The rows of a store that an insertion makes of another. -/
def rowsAfter (session : Session) (table : String) (values : List (String × Value)) :
    Option Int64 × List (List Sql.Row) :=
  let result := (Call.insert table (Entries.ofList values)).outcome session
  (result.1.toOption, result.2.store.database.tables.map Table.rows)

end Codes

end Registrar
