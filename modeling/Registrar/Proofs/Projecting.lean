import Registrar.Proofs.Insertion
import Registrar.Proofs.Rows

/-!
# What an insertion takes of its values

An insertion goes through the columns of a table as they are declared, except the one that identifies a
row, and takes for each the value of its name.  It is refused at the first column that has neither a
value nor a default; else its statement gives the columns that have a value theirs, and the others are
left to their defaults.  The values are only ever looked up by the names of these columns, so that
neither their order nor what goes by other names is seen.
-/

namespace Registrar

namespace Entries

variable {α : Type} {entries : Entries α} {name : String} {value : α}

/-- A name stands for something exactly if it is one of the names. -/
theorem isSome_get?_iff : (entries.get? name).isSome = true ↔ name ∈ entries.names := by
  simp [get?, names]

/-- A name stands for a value exactly if it is there with it. -/
theorem get?_eq_some_iff : entries.get? name = some value ↔ (name, value) ∈ entries.pairs := by
  constructor
  · intro stands
    obtain ⟨pair, found, rfl⟩ := Option.map_eq_some_iff.1 stands
    obtain rfl : pair.1 = name := by simpa using List.find?_some found
    exact List.mem_of_find?_eq_some found
  · exact fun mem => entries.get?_of_mem mem

/-- A name stands for the same in entries that hold the same, in whatever order, of some names that it
is one of. -/
theorem get?_of_perm {others : Entries α} {among : String → Bool}
    (same : (entries.pairs.filter fun pair => among pair.1).Perm
      (others.pairs.filter fun pair => among pair.1)) (own : among name = true) :
    entries.get? name = others.get? name := by
  have stands (value : α) : entries.get? name = some value ↔ others.get? name = some value := by
    have kept := same.mem_iff (a := (name, value))
    rw [List.mem_filter, List.mem_filter, and_iff_left own, and_iff_left own] at kept
    rw [get?_eq_some_iff, get?_eq_some_iff, kept]
  exact Option.ext stands

end Entries

namespace TableInfo

variable {info : TableInfo} {values : Entries Value} {column : ColumnInfo}

/-- An insertion lacks a column that has no default and is given no value, unless the column is the one
that identifies a row. -/
def Lacks (info : TableInfo) (values : Entries Value) (column : ColumnInfo) : Prop :=
  column.name ≠ info.identity.name ∧ column.default = none ∧ column.name ∉ values.names

/-- An insertion takes the value of a column that is given one, unless the column is the one that
identifies a row. -/
def Takes (info : TableInfo) (values : Entries Value) (column : ColumnInfo) : Prop :=
  column.name ≠ info.identity.name ∧ column.name ∈ values.names

instance : DecidablePred (info.Lacks values) :=
  fun _ => inferInstanceAs (Decidable (_ ∧ _ ∧ _))

instance : DecidablePred (info.Takes values) :=
  fun _ => inferInstanceAs (Decidable (_ ∧ _))

/-- The columns whose values an insertion takes, in the order of their declaration. -/
def taken (info : TableInfo) (values : Entries Value) : List ColumnInfo :=
  info.columns.filter (info.Takes values)

/-- The column that identifies a row is one of the columns. -/
theorem identity_mem (info : TableInfo) : info.identity ∈ info.columns := by
  rw [identity]
  cases found : info.columns.find? ColumnInfo.primaryKey with
  | some column => exact List.mem_of_find?_eq_some found
  | none => exact List.mem_cons_self

/-- Where columns are told apart by their names, so is the one that identifies a row. -/
theorem name_ne_identity_iff (distinct : (info.columns.map ColumnInfo.name).Nodup)
    (mem : column ∈ info.columns) : column.name ≠ info.identity.name ↔ column ≠ info.identity :=
  not_congr ⟨List.inj_on_of_nodup_map distinct mem info.identity_mem, congrArg ColumnInfo.name⟩

end TableInfo

namespace Call

variable {info : TableInfo} {table : String} {values others : Entries Value} {session : Session}

/-- The column that an insertion is refused for is the first that it lacks. -/
theorem find?_insertColumns (info : TableInfo) (values : Entries Value) :
    (info.insertColumns.find? fun column => column.isRequired && (values.get? column.name).isNone) =
      info.columns.find? (info.Lacks values) := by
  rw [TableInfo.insertColumns, List.find?_filter]
  congr 1
  funext column
  rw [decide_eq_decide]
  simp [TableInfo.Lacks, ColumnInfo.isRequired, ← Entries.isSome_get?_iff]

/-- The columns that an insertion may give and that have values are those that it takes. -/
theorem filter_insertColumns (info : TableInfo) (values : Entries Value) :
    (info.insertColumns.filter fun column => (values.get? column.name).isSome) =
      info.taken values := by
  rw [TableInfo.insertColumns, List.filter_filter, TableInfo.taken]
  congr 1
  funext column
  rw [Bool.eq_iff_iff]
  simp [TableInfo.Takes, ← Entries.isSome_get?_iff, and_comm]

/-- What the columns of a table are given that an insertion may give. -/
def projection (info : TableInfo) (values : Entries Value) : List (String × Value) :=
  givenPairs values info.insertColumns

/-- The values of an insertion are refused for the first column that it lacks, or else projected. -/
theorem insertPairs_insertColumns (table : String) (info : TableInfo) (values : Entries Value) :
    insertPairs table values info.insertColumns =
      match info.columns.find? (info.Lacks values) with
      | some column => .error (.rejected (.missingColumn column.name table))
      | none => .ok (projection info values) := by
  rw [insertPairs_eq, find?_insertColumns]
  rfl

/-- Pairs are those of the columns that an insertion takes, in the order of their declaration, each
with its own value. -/
structure Projects (info : TableInfo) (values : Entries Value) (pairs : List (String × Value)) :
    Prop where
  columns : pairs.map Prod.fst = (info.taken values).map ColumnInfo.name
  own : ∀ pair ∈ pairs, pair ∈ values.pairs

/-- What an insertion takes is the projection of its values. -/
theorem projects (info : TableInfo) (values : Entries Value) :
    Projects info values (projection info values) where
  columns := by rw [projection, names_givenPairs, filter_insertColumns]
  own := fun _ mem => Entries.get?_eq_some_iff.1 (mem_givenPairs_iff.1 mem).2

/-- Nothing is projected exactly if no column is taken. -/
theorem Projects.eq_nil_iff {pairs : List (String × Value)} (projects : Projects info values pairs) :
    pairs = [] ↔ ∀ column ∈ info.columns, ¬ info.Takes values column := by
  rw [← List.map_eq_nil_iff, projects.columns, List.map_eq_nil_iff, TableInfo.taken,
    List.filter_eq_nil_iff]
  simp only [decide_eq_true_eq]

/-- Whether an insertion may give a column of a name. -/
def isInsertName (info : TableInfo) (name : String) : Bool :=
  (info.insertColumns.map ColumnInfo.name).contains name

/-- Values are the same to an insertion if they hold the same, in whatever order, of the columns that it
may give. -/
def SameGiven (info : TableInfo) (values others : Entries Value) : Prop :=
  (values.pairs.filter fun pair => isInsertName info pair.1).Perm
    (others.pairs.filter fun pair => isInsertName info pair.1)

/-- Only the values of the columns are looked at. -/
theorem insertPairs_congr {columns : List ColumnInfo}
    (same : ∀ column ∈ columns, values.get? column.name = others.get? column.name) :
    insertPairs table values columns = insertPairs table others columns := by
  induction columns with
  | nil => rfl
  | cons column columns ih =>
    rw [insertPairs, insertPairs, same column List.mem_cons_self,
      ih fun later mem => same later (List.mem_cons_of_mem _ mem)]

/-- Values that are the same to an insertion give the same to the columns. -/
theorem SameGiven.insertPairs_eq (same : SameGiven info values others) (table : String) :
    insertPairs table values info.insertColumns = insertPairs table others info.insertColumns :=
  insertPairs_congr fun _ mem =>
    Entries.get?_of_perm same (List.contains_iff_mem.2 (List.mem_map_of_mem mem))

section Statements

/-- A statement inserts pairs if its parameters are their values, and its text names their columns, with
a mark for each, or is that of an insertion of defaults where there are none. -/
structure InsertsPairs (table : String) (pairs : List (String × Value)) (statement : Statement) :
    Prop where
  parameters : statement.parameters = pairs.map Prod.snd
  defaults : statement.text = defaultsText table ↔ pairs = []
  columns : pairs ≠ [] → statement.text = insertionText table (pairs.map Prod.fst)
  /-- The names are read as they are if they are bare ones. -/
  reads : isIdentifier table = true → pairs ≠ [] → pairs.length ≤ 32766 →
    (∀ name ∈ pairs.map Prod.fst, Sql.IsBareName name) →
      Sql.parse statement.text = .ok (insertionRead table (pairs.map Prod.fst))

/-- An insertion that names columns is none of defaults. -/
theorem insertionText_ne_defaultsText (table : String) (names : List String) :
    insertionText table names ≠ defaultsText table := by
  intro same
  have begins := congrArg String.toList same
  simp only [insertionText, insertOpening, defaultsText, String.toList_append, List.append_assoc,
    List.append_cancel_left_eq] at begins
  exact absurd begins (by simp)

/-- The statement of an insertion inserts its pairs. -/
theorem insertsPairs_insertStatement (table : String) (pairs : List (String × Value)) :
    InsertsPairs table pairs (insertStatement table pairs) := by
  by_cases present : pairs = []
  · subst present
    exact ⟨rfl, iff_of_true rfl rfl, absurd rfl, fun _ => absurd rfl⟩
  · rw [insertStatement_eq present]
    refine ⟨rfl, iff_of_false (insertionText_ne_defaultsText table _) present, fun _ => rfl,
      fun named _ few bare => ?_⟩
    exact parse_insertion named (mt List.map_eq_nil_iff.1 present) bare (by rwa [List.length_map])

end Statements

section Outcomes

/-- Carries an insertion out, and yields the id of its row. -/
def insertBy (statement : Statement) : Call Int64 := do
  discard (change statement)
  return (← store).lastId

/-- What carries an insertion out is logged, and fails only where the store does. -/
theorem outcome_insertBy (statement : Statement) (session : Session) :
    ((insertBy statement).outcome session).2.log = entry statement :: session.log ∧
      ∀ f, ((insertBy statement).outcome session).1 = .error f → ∃ fault, f = .storage fault := by
  rw [insertBy, outcome_bind, outcome_discard, outcome_change]
  cases (changeOn session.store statement).1 with
  | error fault => exact ⟨rfl, fun f failed => ⟨fault, (Except.error.inj failed).symm⟩⟩
  | ok n => exact ⟨rfl, nofun⟩

/-- An insertion into a table that is described fails where its values are refused, and else carries its
statement out. -/
theorem outcome_insert (described : session.store.database.describe table = .ok info) :
    (insert table values).outcome session =
      match insertPairs table values info.insertColumns with
      | .error f => (.error f, session)
      | .ok pairs => (insertBy (insertStatement table pairs)).outcome session := by
  rw [insert, outcome_bind, outcome_store]
  dsimp only
  rw [described, outcome_bind, outcome_lift]
  dsimp only
  rw [outcome_bind, outcome_lift]
  cases insertPairs table values info.insertColumns <;> rfl

/-- An insertion into a table that is described is refused for the first column that it lacks, and else
carries out the statement of what is projected. -/
theorem outcome_insert_projection (described : session.store.database.describe table = .ok info) :
    (insert table values).outcome session =
      match info.columns.find? (info.Lacks values) with
      | some column => (.error (.rejected (.missingColumn column.name table)), session)
      | none => (insertBy (insertStatement table (projection info values))).outcome session := by
  rw [outcome_insert described, insertPairs_insertColumns]
  cases info.columns.find? (info.Lacks values) <;> rfl

end Outcomes

end Call

open Call

/-- An insertion projects its values onto the columns of a table.  It reports a missing column exactly if
it lacks one, and then the first, with nothing run; else it carries out the statement that names the
columns that it takes, in the order of their declaration, and binds its own value to each.  Values that
hold the same of the columns that may be given lead to the same. -/
theorem insertion_projects_values (info : TableInfo) (table : String) (values : Entries Value) :
    ((info.columns.map ColumnInfo.name).Nodup → ∀ column ∈ info.columns,
      (column.name ≠ info.identity.name ↔ column ≠ info.identity)) ∧
    ∀ session : Session, session.store.database.describe table = .ok info →
      ((∃ name after, (insert table values).outcome session =
          (.error (.rejected (.missingColumn name table)), after)) ↔
        ∃ column ∈ info.columns, info.Lacks values column) ∧
      (∀ column, info.columns.find? (info.Lacks values) = some column →
        (insert table values).outcome session =
          (.error (.rejected (.missingColumn column.name table)), session)) ∧
      ((∀ column ∈ info.columns, ¬ info.Lacks values column) →
        ∃ pairs statement, Projects info values pairs ∧ InsertsPairs table pairs statement ∧
          (statement.text = defaultsText table ↔
            ∀ column ∈ info.columns, ¬ info.Takes values column) ∧
          (insert table values).outcome session = (insertBy statement).outcome session ∧
          ((insert table values).outcome session).2.log = entry statement :: session.log) ∧
      ∀ others, SameGiven info values others →
        (insert table others).outcome session = (insert table values).outcome session := by
  refine ⟨fun distinct column mem => TableInfo.name_ne_identity_iff distinct mem,
    fun session described => ?_⟩
  have refused : ∀ column, info.columns.find? (info.Lacks values) = some column →
      (insert table values).outcome session =
        (.error (.rejected (.missingColumn column.name table)), session) := by
    intro column first
    rw [outcome_insert_projection described, first]
  have carried : (∀ column ∈ info.columns, ¬ info.Lacks values column) →
      (insert table values).outcome session =
        (insertBy (insertStatement table (projection info values))).outcome session := by
    intro complete
    have none : info.columns.find? (info.Lacks values) = none :=
      List.find?_eq_none.2 fun column mem => by simpa using complete column mem
    rw [outcome_insert_projection described, none]
  refine ⟨⟨?reported, ?lacking⟩, refused, ?complete, fun others same => ?_⟩
  case reported =>
    rintro ⟨name, after, failed⟩
    by_contra complete
    rw [carried (by simpa using complete)] at failed
    obtain ⟨fault, isStorage⟩ := (outcome_insertBy _ session).2 _ (congrArg Prod.fst failed)
    cases isStorage
  case lacking =>
    rintro ⟨column, mem, lacks⟩
    have some : (info.columns.find? (info.Lacks values)).isSome = true :=
      List.find?_isSome.2 ⟨column, mem, decide_eq_true lacks⟩
    obtain ⟨first, found⟩ := Option.isSome_iff_exists.1 some
    exact ⟨first.name, session, refused first found⟩
  case complete =>
    intro complete
    have inserts := insertsPairs_insertStatement table (projection info values)
    refine ⟨_, _, projects info values, inserts, ?_, carried complete, ?_⟩
    · rw [inserts.defaults, (projects info values).eq_nil_iff]
    · rw [carried complete]
      exact (outcome_insertBy _ session).1
  · rw [outcome_insert described, outcome_insert described, same.insertPairs_eq table]

section Cruisers

/-- The declaration of a table of cruisers. -/
def cruisersText : String :=
  "CREATE TABLE cruisers (cruisers_id INTEGER PRIMARY KEY, name TEXT, crew INTEGER DEFAULT 1)"

/-- A table of cruisers with their names and crews. -/
def cruisersTable : Sql.Table :=
  ⟨"cruisers", [⟨"cruisers_id", "INTEGER", .integer, .binary, false, 1, none⟩,
    ⟨"name", "TEXT", .text, .binary, false, 0, none⟩,
    ⟨"crew", "INTEGER", .integer, .binary, false, 0, some ("1", .literal (.integer 1))⟩], some 0, false, [], [], [],
    [], cruisersText⟩

/-- The description of the table of cruisers. -/
def cruisersInfo : TableInfo :=
  ⟨"cruisers", ⟨"cruisers_id", "INTEGER", false, true, none⟩,
    [⟨"name", "TEXT", false, false, none⟩, ⟨"crew", "INTEGER", false, false, some "1"⟩]⟩

/-- A store of no cruisers yet. -/
def uncrewed : Session :=
  ⟨.opened ⟨[.table cruisersTable]⟩, []⟩

/-- A cruiser has to be given a name, its id and what is no column are passed over, and its crew may be
left out. -/
theorem insertion_projects_values_cruisers :
    (insert "cruisers" (Entries.ofList [("crew", .integer 430)])).outcome uncrewed =
        (.error (.rejected (.missingColumn "name" "cruisers")), uncrewed) ∧
      (insert "cruisers" (Entries.ofList [("captain", .text "Pike"), ("crew", .integer 430),
        ("name", .text "Enterprise")])).outcome uncrewed =
          (insert "cruisers" (Entries.ofList [("name", .text "Enterprise"), ("cruisers_id", .integer 1701),
            ("crew", .integer 430)])).outcome uncrewed := by
  have described : uncrewed.store.database.describe "cruisers" = .ok cruisersInfo := rfl
  have same : SameGiven cruisersInfo
      (Entries.ofList [("name", .text "Enterprise"), ("cruisers_id", .integer 1701),
        ("crew", .integer 430)])
      (Entries.ofList [("captain", .text "Pike"), ("crew", .integer 430), ("name", .text "Enterprise")]) :=
    List.Perm.swap ("crew", Value.integer 430) ("name", Value.text "Enterprise") []
  obtain ⟨-, refused, -, -⟩ := (insertion_projects_values cruisersInfo "cruisers"
    (Entries.ofList [("crew", .integer 430)])).2 uncrewed described
  obtain ⟨-, -, -, alike⟩ := (insertion_projects_values cruisersInfo "cruisers"
    (Entries.ofList [("name", .text "Enterprise"), ("cruisers_id", .integer 1701),
      ("crew", .integer 430)])).2 uncrewed described
  exact ⟨refused ⟨"name", "TEXT", false, false, none⟩ rfl, alike _ same⟩

end Cruisers

end Registrar
