import Mathlib.Data.List.Nodup
import Registrar.Accounts
import Registrar.Proofs.Rows

/-!
# Renamed columns

A declaration of records names a column for every field and a field for every column.  Where the
renamed columns are distinct, and a column that is called like a field is renamed only if this field
has a column of another name, the column of a field leads back to the field.  So the values of a
record by column lose nothing, and a record that can be built from its own values is built again from
the row of its columns.
-/

namespace Registrar

/-! ## There and back -/

namespace RecordType

variable {type : RecordType} {name : String}

/-- A declaration whose columns lead back to its fields. -/
structure RenamesBack (type : RecordType) : Prop where
  fields : type.fieldNames.Nodup
  columns : (type.rename.map Prod.fst).Nodup
  /-- A column that is called like a field is renamed only if the field has a column of another
  name. -/
  freed : ∀ entry ∈ type.rename, entry.1 ∈ type.fieldNames → entry.1 ∈ type.rename.map Prod.snd

/-- The column of a field is that of a field. -/
theorem fieldName_columnName (back : type.RenamesBack) (declared : name ∈ type.fieldNames) :
    type.fieldName (type.columnName name) = name := by
  unfold columnName
  cases renamed : type.rename.find? fun entry => entry.2 == name with
  | some entry =>
    have mem := List.mem_of_find?_eq_some renamed
    have isName : entry.2 = name := by simpa using List.find?_some renamed
    have found := find?_of_distinct back.columns mem
    simp only [fieldName, found, isName]
  | none =>
    have kept : ∀ entry ∈ type.rename, entry.2 ≠ name := by simpa using renamed
    cases taken : type.rename.find? fun entry => entry.1 == name with
    | none => simp only [fieldName, taken]
    | some entry =>
      have mem := List.mem_of_find?_eq_some taken
      have isName : entry.1 = name := by simpa using List.find?_some taken
      have target := back.freed entry mem (isName ▸ declared)
      obtain ⟨other, among, same⟩ := List.mem_map.1 target
      exact absurd (same.trans isName) (kept other among)

/-- Different fields have different columns. -/
theorem nodup_columnNames (back : type.RenamesBack) :
    (type.fieldNames.map type.columnName).Nodup := by
  have again : (type.fieldNames.map type.columnName).map type.fieldName = type.fieldNames := by
    rw [List.map_map]
    conv_rhs => rw [← List.map_id type.fieldNames]
    exact List.map_congr_left fun name declared => fieldName_columnName back declared
  have distinct := back.fields
  rw [← again] at distinct
  exact List.Nodup.of_map type.fieldName distinct

end RecordType

/-! ## Collecting the fields of a row of columns -/

namespace RecordType

variable {type : RecordType}

/-- From a row with the columns of some fields the values of these fields are collected, each under
its field. -/
theorem collect_columns (back : type.RenamesBack) (value : String → Value) {names : List String}
    (declared : ∀ name ∈ names, name ∈ type.fieldNames) (distinct : names.Nodup)
    (fields : Entries Value) (fresh : ∀ name ∈ names, fields.get? name = none) :
    type.collect (names.map fun name => (type.columnName name, value name)) fields =
      names.foldl (fun fields name => fields.put name (value name)) fields := by
  induction names generalizing fields with
  | nil => rfl
  | cons name names ih =>
    obtain ⟨apart, distinct⟩ := List.nodup_cons.1 distinct
    have isField := declared name List.mem_cons_self
    have isFresh := fresh name List.mem_cons_self
    have takes : (type.fieldNames.contains name && (fields.get? name).isNone) = true := by
      simp [isField, isFresh]
    have later : ∀ other ∈ names, (fields.put name (value name)).get? other = none := by
      intro other mem
      have different : name ≠ other := fun same => apart (same ▸ mem)
      rw [Entries.get?_put, if_neg different]
      exact fresh other (List.mem_cons_of_mem name mem)
    rw [List.map_cons, collect, fieldName_columnName back isField, if_pos takes, List.foldl_cons]
    exact ih (fun other mem => declared other (List.mem_cons_of_mem name mem)) distinct _ later

end RecordType

/-! ## Records of any make -/

/-- A kind of record with a way of its own to be built from the values of its fields and to show
them. -/
structure Projection (ρ : Type) where
  type : RecordType
  build : FieldSet → Except Failure ρ
  field : ρ → String → Value

namespace Projection

variable {ρ : Type} {p : Projection ρ} {r : ρ}

/-- The values by field. -/
def entries (p : Projection ρ) (r : ρ) : Entries Value :=
  Entries.ofList (p.type.fieldNames.map fun name => (name, p.field r name))

/-- The values by column. -/
def columnValues (p : Projection ρ) (r : ρ) : Entries Value :=
  Entries.ofList (p.type.fieldNames.map fun name => (p.type.columnName name, p.field r name))

/-- Builds a record from a row. -/
def ofRow (p : Projection ρ) (row : Row) : Except Failure ρ :=
  p.build ⟨p.type.table, p.type.collect row.items Entries.empty⟩

/-- Builds a record from values by field; a name that is no field is refused. -/
def ofValues (p : Projection ρ) (values : Entries Value) : Except Failure ρ :=
  match values.names.find? fun name => !p.type.fieldNames.contains name with
  | some name => .error (.rejected (.unknownField p.type.table name))
  | none => p.build ⟨p.type.table, values⟩

/-- A record can be built from its own values. -/
def Rebuilds (p : Projection ρ) (r : ρ) : Prop :=
  p.build ⟨p.type.table, p.entries r⟩ = .ok r

/-- By column, there is one value for every field, in the order of the fields. -/
theorem pairs_columnValues (back : p.type.RenamesBack) (r : ρ) :
    (p.columnValues r).pairs =
      p.type.fieldNames.map fun name => (p.type.columnName name, p.field r name) := by
  refine Entries.pairs_ofList ?_
  rw [List.map_map]
  exact p.type.nodup_columnNames back

/-- A record that can be built from its own values is built from the row of its columns. -/
theorem ofRow_columnValues (back : p.type.RenamesBack) (rebuilds : p.Rebuilds r) :
    p.ofRow ⟨(p.columnValues r).pairs⟩ = .ok r := by
  have collected : p.type.collect (p.columnValues r).pairs Entries.empty = p.entries r := by
    rw [pairs_columnValues back, RecordType.collect_columns back (p.field r) (fun _ mem => mem)
      back.fields Entries.empty fun _ _ => rfl, entries, Entries.ofList, List.foldl_map]
  rw [ofRow, collected]
  exact rebuilds

/-- A record that can be built from its own values is built from its values by field. -/
theorem ofValues_entries (distinct : p.type.fieldNames.Nodup) (rebuilds : p.Rebuilds r) :
    p.ofValues (p.entries r) = .ok r := by
  have names : (p.entries r).names = p.type.fieldNames := by
    have same : (p.type.fieldNames.map fun name => (name, p.field r name)).map Prod.fst =
        p.type.fieldNames := by
      rw [List.map_map]
      exact List.map_id _
    rw [Entries.names, entries, Entries.pairs_ofList (by rwa [same]), same]
  have known : (p.entries r).names.find? (fun name => !p.type.fieldNames.contains name) = none := by
    rw [names, List.find?_eq_none]
    intro name declared
    simp [declared]
  rw [ofValues, known]
  exact rebuilds

end Projection

/-! ## Records by their declaration -/

namespace Record

variable {record : Record}

/-- A record shows for its fields the values that it has. -/
theorem pairs_eq (distinct : record.type.fieldNames.Nodup)
    (sized : record.values.length = record.type.fields.length) :
    record.pairs = record.type.fieldNames.map fun name => (name, record.field name) := by
  have names : record.pairs.map Prod.fst = record.type.fieldNames :=
    List.map_fst_zip (by simp [RecordType.fieldNames, sized])
  have shown : ∀ pair ∈ record.pairs, pair = (pair.1, record.field pair.1) := by
    intro pair mem
    have found := find?_of_distinct (names.symm ▸ distinct) mem
    rw [field, found]
    rfl
  calc record.pairs
      = record.pairs.map fun pair => (pair.1, record.field pair.1) := by
        conv_lhs => rw [← List.map_id record.pairs]
        exact List.map_congr_left shown
    _ = _ := by rw [← names, List.map_map]; rfl

end Record

/-- There is a value for every field that is taken. -/
theorem FieldSet.length_takeAll {fields : FieldSet} {list : List Field} {values : List Value}
    (taken : fields.takeAll list = .ok values) : values.length = list.length := by
  induction list generalizing fields values with
  | nil =>
    obtain rfl := Except.ok.inj taken
    rfl
  | cons first list ih =>
    rw [takeAll] at taken
    split at taken
    · cases taken
    · obtain ⟨others, more, taken⟩ := bind_eq_ok taken
      obtain rfl := Except.ok.inj taken
      rw [List.length_cons, List.length_cons, ih more]

namespace RecordType

variable {type : RecordType} {record : Record}

/-- A declaration takes its fields one after another, each as its kind says. -/
def projection (type : RecordType) : Projection Record where
  type
  build fields := do
    let values ← fields.takeAll type.fields
    .ok ⟨type, values⟩
  field := Record.field

/-- A record that can be built from its own values is built from the row of its columns, and from its
values by field. -/
theorem ofRow_ofValues_of_rebuilt (back : type.RenamesBack)
    (rebuilt : type.ofFields record.entries = .ok record) :
    type.ofRow ⟨record.columnValues.pairs⟩ = .ok record ∧
      type.ofValues record.entries = .ok record := by
  obtain ⟨values, taken, same⟩ := bind_eq_ok rebuilt
  obtain rfl := Except.ok.inj same
  have shown : (Record.mk type values).pairs =
      type.fieldNames.map fun name => (name, (Record.mk type values).field name) :=
    Record.pairs_eq back.fields (FieldSet.length_takeAll taken)
  have entries : (Record.mk type values).entries = type.projection.entries ⟨type, values⟩ := by
    rw [Record.entries, shown]
    rfl
  have columns : (Record.mk type values).columnValues =
      type.projection.columnValues ⟨type, values⟩ := by
    rw [Record.columnValues, shown, List.map_map]
    rfl
  have rebuilds : type.projection.Rebuilds ⟨type, values⟩ := by
    rw [Projection.Rebuilds, ← entries]
    exact rebuilt
  rw [entries, columns]
  exact ⟨Projection.ofRow_columnValues (p := type.projection) back rebuilds,
    Projection.ofValues_entries (p := type.projection) back.fields rebuilds⟩

end RecordType

namespace User

/-- The columns of users lead back to their fields. -/
theorem renamesBack : recordType.RenamesBack :=
  ⟨by decide, by decide, by decide⟩

/-- Every user can be built from the values of its fields. -/
theorem rebuilt (user : User) : recordType.ofFields user.record.entries = .ok user.record := by
  obtain ⟨id, name, digest⟩ := user
  cases id <;> rfl

/-- Every user is told of by its record. -/
theorem ofRecord?_record (user : User) : ofRecord? user.record = some user := by
  obtain ⟨id, name, digest⟩ := user
  cases id <;> rfl

end User

/-! ## All of it -/

/-- Where the columns of a declaration lead back to its fields, every field has a column of its own
that leads back to it, the values of a record by column are those of its fields in their order, and a
record that can be built from its own values is built again from the row of its columns and from its
values by field, however it is built.  All of this holds of users, every one of which can be built
from its own values. -/
theorem records_lead_back {ρ : Type} (p : Projection ρ) (back : p.type.RenamesBack) :
    (∀ name ∈ p.type.fieldNames, p.type.fieldName (p.type.columnName name) = name) ∧
    (p.type.fieldNames.map p.type.columnName).Nodup ∧
    (∀ r, (p.columnValues r).pairs =
      p.type.fieldNames.map fun name => (p.type.columnName name, p.field r name)) ∧
    (∀ r, p.Rebuilds r →
      p.ofRow ⟨(p.columnValues r).pairs⟩ = .ok r ∧ p.ofValues (p.entries r) = .ok r) ∧
    (∀ record, p.type.ofFields record.entries = .ok record →
      p.type.ofRow ⟨record.columnValues.pairs⟩ = .ok record ∧
        p.type.ofValues record.entries = .ok record) ∧
    User.recordType.RenamesBack ∧
    ∀ user : User, User.ofRow ⟨user.record.columnValues.pairs⟩ = .ok user ∧
      User.recordType.ofValues user.record.entries = .ok user.record := by
  refine ⟨fun name declared => RecordType.fieldName_columnName back declared,
    RecordType.nodup_columnNames back, Projection.pairs_columnValues back,
    fun r rebuilds => ⟨Projection.ofRow_columnValues back rebuilds,
      Projection.ofValues_entries back.fields rebuilds⟩,
    fun record rebuilt => RecordType.ofRow_ofValues_of_rebuilt back rebuilt,
    User.renamesBack, fun user => ?_⟩
  obtain ⟨row, values⟩ := RecordType.ofRow_ofValues_of_rebuilt User.renamesBack user.rebuilt
  refine ⟨?_, values⟩
  simp only [User.ofRow, row, bind, Except.bind, User.ofRecord?_record]

/-- Records of ships whose columns go by each other's names. -/
def crossedType : RecordType :=
  ⟨"ships", [⟨"crew", .integer, false⟩, ⟨"name", .text, false⟩],
    [("name", "crew"), ("crew", "name")]⟩

/-- A ship of which the crew is kept in the column `name`, and the name in the column `crew`. -/
def crossedShip : Record :=
  ⟨crossedType, [.integer 8, .text "Defiant"]⟩

/-- The ship is built again from the row of its columns, crossed as they are. -/
theorem records_lead_back_crossed :
    crossedType.RenamesBack ∧ "crew" ∈ crossedType.fieldNames ∧
      crossedType.projection.Rebuilds crossedShip ∧
      crossedType.ofFields crossedShip.entries = .ok crossedShip ∧
      crossedType.fieldName (crossedType.columnName "crew") = "crew" ∧
      crossedShip.columnValues.pairs = [("name", .integer 8), ("crew", .text "Defiant")] ∧
      crossedType.ofRow ⟨[("name", .integer 8), ("crew", .text "Defiant")]⟩ = .ok crossedShip := by
  have back : crossedType.RenamesBack := ⟨by decide, by decide, by decide⟩
  have declared : "crew" ∈ crossedType.fieldNames := List.mem_cons_self
  have rebuilt : crossedType.ofFields crossedShip.entries = .ok crossedShip := rfl
  have columns : crossedShip.columnValues.pairs =
      [("name", .integer 8), ("crew", .text "Defiant")] := rfl
  obtain ⟨leads, -, -, -, again, -⟩ := records_lead_back crossedType.projection back
  exact ⟨back, declared, rfl, rebuilt, leads "crew" declared, columns,
    (columns ▸ again crossedShip rebuilt).1⟩

end Registrar
