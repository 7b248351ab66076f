import Registrar.Proofs.Returning
import Registrar.Proofs.Verbs

/-!
# Rows that are read by their ids

An insertion yields the id of its row, and whoever asks for the row of this id is answered with one row:
what its columns are given, as it was given, and what the others have by default, as their types have it
read.
-/

namespace Registrar

open Registrar.Text Registrar.Number Registrar.Calendar Registrar.Sql Registrar.Sql.Database Call

/-- The conditions that the row of a table has an id: a bare number or its digits, or that the column of
the id equals it. -/
inductive Condition.Identifies (table : String) (id : Int64) : Condition → Prop
  | number : Identifies table id (.scalar (.integer id))
  | digits (s : String) (read : integerText? s = some id) : Identifies table id (.scalar (.text s))
  | equation {condition : Condition} (mem : condition ∈ equations (table ++ "_id") (.integer id)) :
    Identifies table id condition

/-- What is read of a column of a new row: the value that the column is given, or else its default, as
the type of the column has it read. -/
def Sql.Column.Returns (c : Column) (env : Env) (values : Entries Value) (value : Value) : Prop :=
  match values.get? c.name with
  | some given => value = given
  | none => ∃ source e cell, c.default = some (source, e) ∧ e.eval (env.ofRow []) = .ok cell ∧
      value = c.reading (Cell.store c.affinity cell)

section Identities

variable {table : String} {id : Int64} {condition : Condition}

namespace Condition.Identifies

/-- Whoever asks for an id asks with one term, bare or by the name of the column. -/
theorem terms (asks : condition.Identifies table id) :
    condition.terms = [.id id] ∨ condition.terms = [.comparison (table ++ "_id") "=" (.integer id)] := by
  cases asks with
  | number => exact .inl rfl
  | digits s read =>
    refine .inl ?_
    rw [Condition.terms, bareTerms, read]
  | equation mem => exact .inr (terms_of_equations mem).1

/-- That a row has an id says something. -/
theorem speaks (asks : condition.Identifies table id) : condition.leafless = false := by
  cases asks with
  | number => rfl
  | digits s read => rfl
  | equation mem => exact (terms_of_equations mem).2

/-- That a row has an id means that the column of the id has it. -/
theorem meaning (asks : condition.Identifies table id) (names : Names) (env : Env) :
    condition.meaning table names env .and =
      some (columnTruth names env (table ++ "_id") (.relation .eq) [.integer id]) := by
  cases asks with
  | number => rfl
  | digits s read =>
    rw [Condition.meaning, bareTerms, read]
    rfl
  | equation mem =>
    rw [meaning_of_equations mem]
    rfl

/-- The clause of a condition that asks for an id compares it with one mark. -/
theorem clause (asks : condition.Identifies table id) :
    condition.clause table = .ok ⟨table ++ "_id = ?", [.integer id]⟩ := by
  cases asks with
  | number => rfl
  | digits s read =>
    show ofScalar table (.text s) = _
    rw [ofScalar, read]
  | equation mem =>
    have text : table ++ "_id" ++ " = ?" = table ++ "_id = ?" := String.append_assoc
    rw [← text]
    exact clause_of_equations mem (Clause.comparison_single _ rfl) (Clause.isEmpty_equation _ _)

end Condition.Identifies

/-- A question for the row of an id can be asked. -/
theorem canAsk_of_identifies (named : isIdentifier table = true) (free : isReserved table = false)
    (asks : condition.Identifies table id) :
    CanAsk table condition ⟨table ++ "_id = ?", [.integer id]⟩ := by
  have listed : ∀ term ∈ condition.terms, term.IsListed := by
    rcases asks.terms with terms | terms <;> rw [terms, List.forall_mem_singleton]
    · exact trivial
    · intro member
      cases member
  have few : 0 + 1 ≤ 32766 := by decide
  exact ⟨named, asks.clause, free, ⟨listed, fun _ => few⟩, rfl⟩

end Identities

section Selecting

variable {t : Sql.Table} {table : String} {id : Int64} {condition : Condition} {i : Nat} {c : Column}
  {row : Sql.Row}

/-- That a row has an id is a comparison with the column of the id. -/
theorem compares_of_identifies (named : isIdentifier table = true)
    (apart : t.columns.Pairwise fun c d => sameName c.name d.name = false)
    (column : t.columns[i]? = some c) (identity : c.name = table ++ "_id")
    (asks : condition.Identifies table id) : condition.Compares table t := by
  have plain : IsPlainName (table ++ "_id") :=
    Agrees.isPlainName_append named (by decide) (by decide)
  have known : (targetColumn t (table ++ "_id")).isSome = true := by
    rw [← identity, targetColumn_of_column apart column]
    rfl
  have among : ∀ own ∈ some (table ++ "_id"), (targetColumn t own).isSome = true := by
    rintro own isColumn
    obtain rfl := Option.mem_some_iff.1 isColumn
    exact known
  rcases asks.terms with terms | terms
  · exact .of_term terms asks.speaks trivial among
  · exact .of_term terms asks.speaks ⟨plain, by decide⟩ among

/-- Where a column shows the ids of the rows, a condition that a row has an id selects the row of it. -/
theorem selects_identity (sound : t.Sound) (column : t.columns[i]? = some c)
    (identity : c.name = table ++ "_id") (shows : t.idColumn = some i) (fits : row.Fits t)
    (asks : condition.Identifies table id) : condition.selects table t row = (row.id == id) := by
  have apart := sound.columns.apart
  rw [Condition.selects, asks.meaning, ← identity,
    columnTruth_of_holds apart column (fits.shows i shows), sound.affinity_of_shown shows column,
    ← compare_integers]
  show (some (some (compare row.id.toInt id.toInt == .eq)) == some (some true)) = _
  cases compare row.id.toInt id.toInt == .eq <;> rfl

end Selecting

section Records

variable {t : Sql.Table} {row : Sql.Row}

/-- The names of what is read of a row are those of the columns, in their order. -/
theorem columns_record (width : row.cells.length = t.columns.length) :
    (t.record row).columns = t.columns.map Column.name := by
  have bound : t.headings.length ≤ row.cells.length := by
    rw [Table.headings, List.length_map, width]
  have paired : (t.record row).columns = ((t.headings.zip row.cells).map Prod.fst).map Prod.fst := by
    rw [List.map_map, List.map_zip_eq_zipWith]
    exact List.map_zipWith
  rw [paired, List.map_fst_zip bound, Table.headings, List.map_map]
  rfl

/-- What is read of a row has in the place of a column what is read of its cell. -/
theorem getElem?_items_record {j : Nat} {d : Column} {cell : Cell} (column : t.columns[j]? = some d)
    (holds : row.cells[j]? = some cell) :
    (t.record row).items[j]? = some (d.name, d.reading cell) := by
  have heading : t.headings[j]? = some (d.name, declaredType (some d.declared)) := by
    rw [Table.headings, List.getElem?_map, column]
    rfl
  show (List.zipWith _ t.headings row.cells)[j]? = _
  rw [List.getElem?_zipWith, heading, holds]
  rfl

/-- What a column keeps of what it is given is read as what it was given. -/
theorem returns_of_keeps {env : Env} {values : Entries Value} {j : Nat} {d : Column} (typed : d.IsTyped)
    (kind : ∀ value, values.get? d.name = some value → value.IsOf d.declared)
    (keeps : Table.Keeps env values row j d) :
    ∃ cell, row.cells[j]? = some cell ∧ d.Returns env values (d.reading cell) := by
  rw [Table.Keeps] at keeps
  simp only [Column.Returns]
  cases given : values.get? d.name with
  | some value =>
    rw [given] at keeps
    exact ⟨_, keeps, reading_store typed (kind value given)⟩
  | none =>
    rw [given] at keeps
    obtain ⟨present, cell, initial, holds⟩ := keeps
    obtain ⟨⟨source, e⟩, default⟩ := Option.isSome_iff_exists.1 present
    rw [Column.initial, default] at initial
    exact ⟨_, holds, source, e, cell, default, initial, rfl⟩

/-- An id is read of the column of the ids. -/
theorem reading_identity {d : Column} {id : Int64} (typed : d.IsTyped) (type : d.declared = "INTEGER") :
    d.reading (.integer id) = .integer id := by
  have capitals : upperAscii d.declared = "INTEGER" := by
    rw [type]
    decide
  have affinity : d.affinity = .integer := by
    rw [typed, type]
    decide
  have read := reading_store typed (.integer id capitals)
  rwa [affinity] at read

end Records

/-- A question for the row of an id is answered with this row and no other, where a column shows the ids
of the rows. -/
theorem outcome_select_identity {session : Session} {table : String} {t : Sql.Table} {id : Int64} {i : Nat}
    {c : Column} {row : Sql.Row} {others : List Sql.Row} {condition : Condition}
    (named : isIdentifier table = true) (free : isReserved table = false)
    (found : session.store.database.table? table = some t) (sound : t.Sound)
    (column : t.columns[i]? = some c) (identity : c.name = table ++ "_id") (shows : t.idColumn = some i)
    (parts : t.rows.Perm (row :: others)) (isId : row.id = id) (fresh : ∀ other ∈ others, other.id ≠ id)
    (asks : condition.Identifies table id) :
    ∃ later, (select (.ofRows table condition)).outcome session = (.ok [t.record row], later) ∧
      (selectOne (.ofRows table condition)).outcome session = (.ok (t.record row), later) ∧
      later.store = session.store := by
  have selects (other : Sql.Row) (mem : other ∈ t.rows) :
      condition.selects table t other = (other.id == id) :=
    selects_identity sound column identity shows (sound.rows other mem) asks
  have chosen : (condition.chosen table t).Perm [row] := by
    have same : condition.chosen table t = t.rows.filter (·.id == id) := List.filter_congr selects
    have none : others.filter (·.id == id) = [] :=
      List.filter_eq_nil_iff.2 fun other mem => by simpa using fresh other mem
    have split : (row :: others).filter (·.id == id) = [row] := by
      rw [List.filter_cons_of_pos (by simpa using isId), none]
    rw [same, ← split]
    exact parts.filter _
  obtain ⟨rows, perm, answers⟩ := outcome_select_ofRows found sound
    (compares_of_identifies named sound.columns.apart column identity asks)
    (canAsk_of_identifies named free asks)
  obtain rfl := List.perm_singleton.1 (perm.trans chosen)
  refine ⟨_, answers, ?_, rfl⟩
  rw [selectOne, outcome_bind_of_ok answers]
  rfl

section Missions

/-- The declaration of a table of missions, its ids among the other columns. -/
def missionsText : String :=
  "CREATE TABLE missions (day DATE, missions_id INTEGER PRIMARY KEY, at TIMESTAMP, " ++
    "secret BOOL DEFAULT 'yes', note TEXT)"

/-- A table of no missions yet, which are secret by default. -/
def missionsTable : Sql.Table :=
  ⟨"missions", [⟨"day", "DATE", .numeric, .binary, false, 0, none⟩,
    ⟨"missions_id", "INTEGER", .integer, .binary, false, 1, none⟩,
    ⟨"at", "TIMESTAMP", .numeric, .binary, false, 0, none⟩,
    ⟨"secret", "BOOL", .numeric, .binary, false, 0, some ("'yes'", .literal (.text "yes"))⟩,
    ⟨"note", "TEXT", .text, .binary, false, 0, none⟩], some 1, false, [], [], [], [], missionsText⟩

/-- A store of no missions yet. -/
def idle : Session :=
  ⟨.opened ⟨[.table missionsTable]⟩, []⟩

/-- There can be such a store. -/
theorem reached_idle : idle.store.Reached := by
  have declares : (Store.opened .empty).prepare missionsText (.createTable ⟨"missions", "missions", 13⟩ false
      [⟨"day", "DATE", []⟩, ⟨"missions_id", "INTEGER", [.primaryKey false false]⟩, ⟨"at", "TIMESTAMP", []⟩,
        ⟨"secret", "BOOL", [.default "'yes'" (.literal (.text "yes"))]⟩, ⟨"note", "TEXT", []⟩] []) =
          .ok (.become ⟨[.table missionsTable]⟩) := rfl
  have declared : (Store.opened .empty).run [] (.become ⟨[.table missionsTable]⟩) =
      .ok (.none, idle.store) := rfl
  exact .ran .opened declares declared

/-- A day of a year before the first. -/
def ides : Date :=
  ⟨-44, 3, 15, by decide⟩

/-- A moment of a second that is added to a day. -/
def leap : Timestamp :=
  ⟨⟨2016, 12, 31, by decide⟩, ⟨23, 59, 59, 1500000000, by decide⟩⟩

/-- A mission with an id of its own and a note that looks like a number. -/
def mission : Entries Value :=
  Entries.ofList [("note", .text "007"), ("missions_id", .text "x"), ("rank", .integer 4),
    ("at", .timestamp leap), ("day", .date ides)]

end Missions

end Registrar
