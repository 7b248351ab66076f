import Mathlib.Data.List.Basic
import Mathlib.Data.List.Induction
import Registrar.Proofs.Outcome
import Registrar.Record

/-!
# Views of a row

A row shows its values under their names in four ways: one at a time, where the first column of a
name counts; all by column, where the last counts; as a text for data interchange, which is written
from the values by column; and as a record, where the first column of a field counts.  A name is in
all of these or in none of them, and they show one value for it exactly when the first and the last
of its columns hold the same.
-/

namespace Registrar

/-! ## Entries -/

section Putting

variable {κ α : Type} [DecidableEq κ]

/-- What is found after a pair was put. -/
theorem find?_putPair (key other : κ) (value : α) (pairs : List (κ × α)) :
    ((putPair key value pairs).find? fun pair => pair.1 == other) =
      if key = other then some (key, value) else pairs.find? fun pair => pair.1 == other := by
  induction pairs with
  | nil => by_cases same : key = other <;> simp [putPair, same]
  | cons pair pairs ih =>
    by_cases placed : pair.1 = key
    · by_cases same : key = other <;> simp [putPair, placed, same]
    · rw [putPair, if_neg placed]
      by_cases found : pair.1 = other
      · have apart : key ≠ other := fun same => placed (found.trans same.symm)
        simp [found, apart]
      · have skipped : (pair.1 == other) = false := by simp [found]
        simp only [List.find?_cons, skipped, ih]

end Putting

namespace Entries

variable {α : Type}

/-- Putting a value changes what its name stands for and nothing else. -/
theorem get?_put (entries : Entries α) (name other : String) (value : α) :
    (entries.put name value).get? other =
      if name = other then some value else entries.get? other := by
  have found := find?_putPair name other value entries.pairs
  by_cases same : name = other <;> simp_all [get?, put]

/-- A list of pairs with one more behind it. -/
theorem ofList_append (pairs : List (String × α)) (pair : String × α) :
    ofList (pairs ++ [pair]) = (ofList pairs).put pair.1 pair.2 := by
  simp [ofList]

/-- A name of a list of pairs stands for the last value that the list gives it. -/
theorem get?_ofList (pairs : List (String × α)) (name : String) :
    (ofList pairs).get? name =
      (pairs.reverse.find? fun pair => pair.1 == name).map Prod.snd := by
  induction pairs using List.reverseRecOn with
  | nil => rfl
  | append_singleton pairs pair ih =>
    rw [ofList_append, get?_put, ih]
    by_cases same : pair.1 = name <;> simp [same]

/-- The names of a list of pairs stand in the order in which the list gives them first. -/
theorem names_ofList (pairs : List (String × α)) :
    (ofList pairs).names = (pairs.map Prod.fst).eraseDups := by
  induction pairs using List.reverseRecOn with
  | nil => rfl
  | append_singleton pairs pair ih =>
    have known : pair.1 ∈ (ofList pairs).pairs.map Prod.fst ↔ pair.1 ∈ pairs.map Prod.fst := by
      have mem := List.mem_eraseDups (a := pair.1) (l := pairs.map Prod.fst)
      rwa [← ih] at mem
    have names : (ofList (pairs ++ [pair])).names =
        if pair.1 ∈ pairs.map Prod.fst then (ofList pairs).names
        else (ofList pairs).names ++ [pair.1] := by
      rw [ofList_append, names, put, keys_putPair]
      simp only [known]
      rfl
    rw [names, ih, List.map_append, List.eraseDups_append]
    by_cases repeated : pair.1 ∈ pairs.map Prod.fst <;>
      simp [repeated, List.removeAll, List.eraseDups_cons]

/-- A new name is put at the end. -/
theorem putPair_of_not_mem {key : String} (value : α) {pairs : List (String × α)}
    (fresh : key ∉ pairs.map Prod.fst) : putPair key value pairs = pairs ++ [(key, value)] := by
  induction pairs with
  | nil => rfl
  | cons pair pairs ih =>
    rw [List.map_cons, List.mem_cons, not_or] at fresh
    rw [putPair, if_neg (Ne.symm fresh.1), ih fresh.2]
    rfl

/-- Pairs of different names are kept as they are. -/
theorem pairs_ofList {pairs : List (String × α)} (distinct : (pairs.map Prod.fst).Nodup) :
    (ofList pairs).pairs = pairs := by
  induction pairs using List.reverseRecOn with
  | nil => rfl
  | append_singleton pairs pair ih =>
    rw [List.map_append, List.nodup_append] at distinct
    obtain ⟨before, -, apart⟩ := distinct
    have fresh : pair.1 ∉ pairs.map Prod.fst := fun among =>
      apart pair.1 among pair.1 (List.mem_singleton_self pair.1) rfl
    rw [ofList_append]
    show putPair pair.1 pair.2 (ofList pairs).pairs = pairs ++ [pair]
    rw [ih before, putPair_of_not_mem pair.2 fresh]

/-- A pair is found under its name. -/
theorem get?_of_mem (entries : Entries α) {pair : String × α} (mem : pair ∈ entries.pairs) :
    entries.get? pair.1 = some pair.2 := by
  rw [get?, find?_of_distinct entries.distinct mem]
  rfl

/-- Entries are their names with the values that these stand for. -/
theorem pairs_eq (entries : Entries α) :
    entries.pairs =
      entries.names.filterMap fun name => (entries.get? name).map fun value => (name, value) := by
  have kept : ∀ pair ∈ entries.pairs,
      ((entries.get? pair.1).map fun value => (pair.1, value)) = some pair := by
    intro pair mem
    simp [entries.get?_of_mem mem]
  calc
    entries.pairs = entries.pairs.filterMap some := by simp
    _ = entries.pairs.filterMap fun pair =>
        (entries.get? pair.1).map fun value => (pair.1, value) :=
      (List.filterMap_congr kept).symm
    _ = _ := by rw [names, List.filterMap_map]; rfl

/-- Removing a name leaves what the other names stand for. -/
theorem get?_remove (entries : Entries α) {name other : String} (apart : name ≠ other) :
    (entries.remove name).get? other = entries.get? other := by
  have same : (fun pair : String × α => decide (pair.1 != name ∧ pair.1 == other)) =
      fun pair => pair.1 == other := by
    funext pair
    by_cases found : pair.1 = other
    · simp [found, Ne.symm apart]
    · simp [found]
  rw [get?, remove, List.find?_filter, same, get?]

end Entries

/-! ## By column -/

namespace Row

/-- The value of the last column of a name. -/
def last? (row : Row) (name : String) : Option Value :=
  (row.items.reverse.find? fun item => item.1 == name).map Prod.snd

/-- A name has a first column exactly when it is the name of a column. -/
theorem isSome_get? (row : Row) (name : String) :
    (row.get? name).isSome ↔ name ∈ row.columns := by
  simp [get?, columns]

/-- A name has a last column exactly when it is the name of a column. -/
theorem isSome_last? (row : Row) (name : String) :
    (row.last? name).isSome ↔ name ∈ row.columns := by
  simp [last?, columns]

/-- By column, a name stands for the value of its last column. -/
theorem get?_entries (row : Row) (name : String) : row.entries.get? name = row.last? name :=
  Entries.get?_ofList row.items name

/-- The text of a row shows every name once, in the order in which the names come first, with the
value of its last column. -/
theorem data_eq (row : Row) :
    row.data = Value.dataPairs
      (row.columns.eraseDups.filterMap fun name =>
        (row.last? name).map fun value => (name, value)) := by
  have names : row.entries.names = row.columns.eraseDups := Entries.names_ofList row.items
  rw [data, Entries.pairs_eq, names]
  simp only [get?_entries]

end Row

/-! ## By field -/

/-- What a field takes from the value that is given for it.  A value that is missing or null leaves an
optional field null; any other is read as a value of the field's kind. -/
def Field.takes (field : Field) : Option Value → Option Value
  | none | some .null => if field.optional then some .null else none
  | some value => field.kind.read? value

namespace FieldSet

/-- Taking a field reads the value under its name. -/
theorem take_eq_ok_iff (fields : FieldSet) (field : Field) (value : Value) :
    (fields.take field).1 = .ok value ↔ field.takes (fields.values.get? field.name) = some value := by
  have reads (given : Value) : field.kind.read false given = .ok value ↔
      field.kind.read? given = some value := by
    cases read : field.kind.read? given <;> simp [FieldKind.read, read]
  unfold take
  split
  · next missing => cases kept : field.optional <;> simp [Field.takes, missing, kept]
  · next null => cases kept : field.optional <;> simp [Field.takes, null, kept]
  · next given present isPresent =>
    rw [isPresent]
    cases given <;> first | exact reads _ | exact absurd rfl present

/-- Taking a field takes its name out. -/
theorem values_take (fields : FieldSet) (field : Field) :
    (fields.take field).2 = ⟨fields.table, fields.values.remove field.name⟩ := by
  unfold take
  split
  · cases field.optional <;> rfl
  · cases field.optional <;> rfl
  · rfl

/-- What is taken for a field is read from the value under its name, unless a field of that name was
taken before. -/
theorem of_takeAll {list : List Field} {name : String} {field : Field} {values : List Value}
    {fields : FieldSet} (taken : fields.takeAll list = .ok values)
    (named : (list.find? fun field => field.name == name) = some field) :
    ∃ value, (((list.map Field.name).zip values).find? fun pair => pair.1 == name) =
        some (name, value) ∧
      field.takes (fields.values.get? name) = some value := by
  induction list generalizing fields values with
  | nil => cases named
  | cons first list ih =>
    rcases took : fields.take first with ⟨read, rest⟩
    rw [takeAll, took] at taken
    cases read with
    | error f => cases taken
    | ok value =>
      obtain ⟨values', more, taken⟩ := bind_eq_ok taken
      have left : rest = ⟨fields.table, fields.values.remove first.name⟩ := by
        rw [← values_take, took]
      obtain rfl : value :: values' = values := by simpa using taken
      by_cases same : first.name = name
      · have isFirst : first = field := by simpa [same] using named
        refine ⟨value, by simp [same], ?_⟩
        rw [← isFirst, ← same, ← take_eq_ok_iff, took]
      · have later : (list.find? fun field => field.name == name) = some field := by
          simpa [same] using named
        obtain ⟨found, place, reads⟩ := ih more later
        refine ⟨found, by simpa [same] using place, ?_⟩
        rwa [left, Entries.get?_remove _ same] at reads

/-- Fields of different names are all taken when every one takes the value under its name. -/
theorem takeAll_succeeds {list : List Field} (distinct : (list.map Field.name).Nodup)
    {fields : FieldSet}
    (takes : ∀ field ∈ list, (field.takes (fields.values.get? field.name)).isSome) :
    ∃ values, fields.takeAll list = .ok values := by
  induction list generalizing fields with
  | nil => exact ⟨[], rfl⟩
  | cons first list ih =>
    rw [List.map_cons, List.nodup_cons] at distinct
    obtain ⟨value, read⟩ := Option.isSome_iff_exists.mp (takes first (by simp))
    have took : fields.take first =
        (.ok value, ⟨fields.table, fields.values.remove first.name⟩) :=
      Prod.ext ((take_eq_ok_iff fields first value).mpr read) (values_take fields first)
    have later : ∀ field ∈ list, (field.takes
        ((fields.values.remove first.name).get? field.name)).isSome := by
      intro field mem
      have apart : first.name ≠ field.name := fun same =>
        distinct.1 (same ▸ List.mem_map_of_mem mem)
      rw [Entries.get?_remove _ apart]
      exact takes field (List.mem_cons_of_mem _ mem)
    let rest : FieldSet := ⟨fields.table, fields.values.remove first.name⟩
    obtain ⟨values, more⟩ : ∃ values, rest.takeAll list = .ok values := ih distinct.2 later
    exact ⟨value :: values, by rw [takeAll, took]; exact congrArg (· >>= _) more⟩

end FieldSet

namespace RecordType

/-- The first column of a row that is mapped to a field. -/
def columnOf? (type : RecordType) (row : Row) (field : String) : Option String :=
  row.columns.find? fun column => type.fieldName column == field

/-- A field that has no value yet is given that of its first column. -/
theorem get?_collect (type : RecordType) {name : String} (declared : name ∈ type.fieldNames)
    (items : List (String × Value)) (fields : Entries Value) :
    (type.collect items fields).get? name =
      (fields.get? name).or
        ((items.find? fun item => type.fieldName item.1 == name).map Prod.snd) := by
  induction items generalizing fields with
  | nil => simp [collect]
  | cons item items ih =>
    obtain ⟨column, value⟩ := item
    rw [collect]
    by_cases mapped : type.fieldName column = name
    · cases given : fields.get? name with
      | none =>
        have put : (fields.put name value).get? name = some value := by simp [Entries.get?_put]
        simp [mapped, declared, given, ih, put]
      | some old => simp [mapped, given, ih]
    · have apart : ∀ new : Value, (fields.put (type.fieldName column) new).get? name =
          fields.get? name := by
        intro new
        simp [Entries.get?_put, mapped]
      split <;> simp [ih, mapped, apart]

/-- The value of the first item that is mapped to a field is what the row gives first under the name
of that item's column. -/
theorem find?_mapped (type : RecordType) (items : List (String × Value)) (name : String) :
    (items.find? fun item => type.fieldName item.1 == name).map Prod.snd =
      (type.columnOf? ⟨items⟩ name).bind (Row.get? ⟨items⟩) := by
  induction items with
  | nil => rfl
  | cons item items ih =>
    obtain ⟨column, value⟩ := item
    by_cases mapped : type.fieldName column = name
    · simp [columnOf?, Row.columns, Row.get?, mapped]
    · have skipped : type.columnOf? ⟨(column, value) :: items⟩ name =
          type.columnOf? ⟨items⟩ name := by
        simp [columnOf?, Row.columns, mapped]
      rw [skipped, List.find?_cons_of_neg (by simpa using mapped), ih]
      cases first : type.columnOf? ⟨items⟩ name with
      | none => rfl
      | some other =>
        have here : type.fieldName other = name := by
          simpa using List.find?_some first
        have apart : column ≠ other := fun same => mapped (same ▸ here)
        simp [Row.get?, apart]

/-- A declared field is given the value of its first column. -/
theorem get?_collected (type : RecordType) {row : Row} {name : String}
    (declared : name ∈ type.fieldNames) :
    (type.collect row.items Entries.empty).get? name =
      (type.columnOf? row name).bind row.get? := by
  rw [get?_collect type declared, find?_mapped]
  rfl

/-- A field of a record that was built from a row is read from what the row gives first under the
name of the first column that is mapped to the field. -/
theorem takes_of_ofRow {type : RecordType} {row : Row} {record : Record} {name : String}
    {field : Field} (built : type.ofRow row = .ok record)
    (named : (type.fields.find? fun field => field.name == name) = some field) :
    field.takes ((type.columnOf? row name).bind row.get?) = some (record.field name) := by
  rw [ofRow, ofFields] at built
  obtain ⟨values, taken, built⟩ := bind_eq_ok built
  obtain rfl : Record.mk type values = record := by simpa using built
  obtain ⟨value, found, takes⟩ := FieldSet.of_takeAll taken named
  have isField := List.mem_of_find?_eq_some named
  have isName : field.name = name := by simpa using List.find?_some named
  have declared : name ∈ type.fieldNames := isName ▸ List.mem_map_of_mem isField
  have shown : Record.field ⟨type, values⟩ name = value := by
    simp [Record.field, Record.pairs, fieldNames, found]
  rw [shown, ← get?_collected type declared]
  exact takes

/-- A row becomes a record of distinct fields exactly when every field takes what the row gives first
under the name of the first column that is mapped to it. -/
theorem ofRow_succeeds_iff {type : RecordType} (distinct : type.fieldNames.Nodup) (row : Row) :
    (∃ record, type.ofRow row = .ok record) ↔
      ∀ field ∈ type.fields,
        (field.takes ((type.columnOf? row field.name).bind row.get?)).isSome := by
  constructor
  · rintro ⟨record, built⟩ field mem
    have named : (type.fields.find? fun other => other.name == field.name) = some field :=
      find?_of_distinct distinct mem
    rw [takes_of_ofRow built named]
    rfl
  · intro takes
    have given : ∀ field ∈ type.fields, (field.takes
        ((type.collect row.items Entries.empty).get? field.name)).isSome := by
      intro field mem
      rw [get?_collected type (List.mem_map_of_mem mem)]
      exact takes field mem
    let fields : FieldSet := ⟨type.table, type.collect row.items Entries.empty⟩
    obtain ⟨values, taken⟩ : ∃ values, fields.takeAll type.fields = .ok values :=
      FieldSet.takeAll_succeeds distinct given
    exact ⟨⟨type, values⟩, by rw [ofRow, ofFields]; exact congrArg (· >>= _) taken⟩

end RecordType

/-! ## The views together -/

/-- The views of a row have the same names.  One at a time and in a record, a name stands for the value
of its first column; by column and in the text, for that of its last.  So they agree on a name exactly
when its first and its last column hold one value. -/
theorem row_views_agree_iff (row : Row) (type : RecordType) :
    (∀ name, ((row.entries.get? name).isSome ↔ (row.get? name).isSome) ∧
      row.entries.get? name = row.last? name ∧
      (row.entries.get? name = row.get? name ↔ row.last? name = row.get? name)) ∧
    row.data = Value.dataPairs
      (row.columns.eraseDups.filterMap fun name =>
        (row.last? name).map fun value => (name, value)) ∧
    (type.fieldNames.Nodup → ((∃ record, type.ofRow row = .ok record) ↔
      ∀ field ∈ type.fields,
        (field.takes ((type.columnOf? row field.name).bind row.get?)).isSome)) ∧
    ∀ record, type.ofRow row = .ok record → ∀ name field,
      (type.fields.find? fun field => field.name == name) = some field →
      field.takes ((type.columnOf? row name).bind row.get?) = some (record.field name) := by
  refine ⟨fun name => ⟨?_, row.get?_entries name, ?_⟩, row.data_eq,
    fun distinct => RecordType.ofRow_succeeds_iff distinct row,
    fun record built name field named => RecordType.takes_of_ofRow built named⟩
  · rw [row.get?_entries, row.isSome_last?, row.isSome_get?]
  · rw [row.get?_entries]

/-- A row of two tables that share the name of a column, the second without a row to join. -/
def sharedRow : Row :=
  ⟨[("crew", .integer 8), ("crew", .null)]⟩

/-- Records of one field. -/
def crewType : RecordType :=
  ⟨"ships", [⟨"crew", .integer, true⟩], []⟩

/-- The row gives the record the crew, and shows null for it by column. -/
theorem row_views_agree_iff_shared :
    sharedRow.get? "crew" = some (.integer 8) ∧ sharedRow.entries.get? "crew" = some .null ∧
      ∃ record, crewType.ofRow sharedRow = .ok record ∧ record.field "crew" = .integer 8 := by
  obtain ⟨names, -, built, fields⟩ := row_views_agree_iff sharedRow crewType
  have distinct : crewType.fieldNames.Nodup := by decide
  have takes : ∀ field ∈ crewType.fields,
      (field.takes ((crewType.columnOf? sharedRow field.name).bind sharedRow.get?)).isSome := by
    decide
  obtain ⟨record, isRecord⟩ := (built distinct).mpr takes
  have crew := fields record isRecord "crew" ⟨"crew", .integer, true⟩ rfl
  refine ⟨by decide, (names "crew").2.1, record, isRecord, ?_⟩
  exact (Option.some.inj crew).symm

end Registrar
