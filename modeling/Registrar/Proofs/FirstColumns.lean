import Registrar.Proofs.Renaming

/-!
# The first column of a field

A record is built from a row by taking its fields, and what is taken for a field is the value of the
first column that is mapped to it.  So a record, or what refuses it, depends on nothing else of the row:
not on columns of no field, nor on later columns of a field, nor on the order in which columns of
different fields stand.
-/

namespace Registrar

variable {ρ : Type}

/-! ## Taking fields -/

/-- A way to build a record that takes fields one after another.  What is taken next, and what is made of
it, may depend on what was taken before. -/
inductive Taking (ρ : Type) where
  | done (result : Except Failure ρ)
  | take (field : Field) (next : Except Failure Value → Taking ρ)

namespace Entries

variable {α : Type}

/-- A name that was removed stands for nothing. -/
theorem get?_remove_self (entries : Entries α) (name : String) :
    (entries.remove name).get? name = none := by
  simp [get?, remove, List.find?_filter]

/-- Entries in which every name stands for the same still do so without a name. -/
theorem get?_remove_congr {entries others : Entries α}
    (same : ∀ name, entries.get? name = others.get? name) (removed name : String) :
    (entries.remove removed).get? name = (others.remove removed).get? name := by
  by_cases here : removed = name
  · subst here
    rw [get?_remove_self, get?_remove_self]
  · rw [get?_remove _ here, get?_remove _ here, same]

end Entries

/-- What is taken for a field depends on what stands under its name. -/
theorem FieldSet.take_congr {values others : Entries Value} {field : Field} (table : String)
    (same : values.get? field.name = others.get? field.name) :
    (take ⟨table, values⟩ field).1 = (take ⟨table, others⟩ field).1 := by
  simp only [take, same]
  split
  · cases field.optional <;> rfl
  · cases field.optional <;> rfl
  · rfl

namespace Taking

/-- Takes the fields from values by field. -/
def run : Taking ρ → FieldSet → Except Failure ρ
  | .done result, _ => result
  | .take field next, fields => (next (fields.take field).1).run (fields.take field).2

/-- Values in which every field stands for the same come to the same. -/
theorem run_congr (plan : Taking ρ) (table : String) {values others : Entries Value}
    (same : ∀ name, values.get? name = others.get? name) :
    plan.run ⟨table, values⟩ = plan.run ⟨table, others⟩ := by
  induction plan generalizing values others with
  | done result => rfl
  | take field next ih =>
    rw [run, run, FieldSet.take_congr table (same field.name), FieldSet.values_take,
      FieldSet.values_take]
    exact ih _ (Entries.get?_remove_congr same field.name)

/-- Takes some fields, up to the first that is refused, and makes something of their values. -/
def all : List Field → (List Value → Except Failure ρ) → Taking ρ
  | [], make => .done (make [])
  | field :: more, make => .take field fun
    | .error f => .done (.error f)
    | .ok value => all more fun values => make (value :: values)

/-- Fields are taken one after another. -/
theorem run_all (list : List Field) (make : List Value → Except Failure ρ) (fields : FieldSet) :
    (all list make).run fields = fields.takeAll list >>= make := by
  induction list generalizing fields make with
  | nil => rfl
  | cons field more ih =>
    rw [all, run, FieldSet.takeAll]
    rcases fields.take field with ⟨f | value, rest⟩
    · rfl
    · dsimp only
      rw [ih]
      cases rest.takeAll more <;> rfl

end Taking

/-- Records of a kind are built by taking fields. -/
def Projection.TakesFields (p : Projection ρ) : Prop :=
  ∃ plan : Taking ρ, ∀ fields, p.build fields = plan.run fields

/-- Records by their declaration are built by taking their fields. -/
theorem RecordType.takesFields_projection (type : RecordType) : type.projection.TakesFields :=
  ⟨.all type.fields fun values => .ok ⟨type, values⟩, fun fields => (Taking.run_all _ _ fields).symm⟩

/-! ## The columns of a field -/

namespace RecordType

variable {type : RecordType} {items others : List (String × Value)} {name : String}

/-- Whether a column is mapped to a field. -/
def isDeclared (type : RecordType) (item : String × Value) : Bool :=
  type.fieldNames.contains (type.fieldName item.1)

/-- The columns that are mapped to a field, with their values. -/
def columnsOf (type : RecordType) (items : List (String × Value)) (name : String) :
    List (String × Value) :=
  items.filter fun item => type.fieldName item.1 == name

/-- The value of the first column that is mapped to a field. -/
def first? (type : RecordType) (items : List (String × Value)) (name : String) : Option Value :=
  (type.columnsOf items name).head?.map Prod.snd

/-- A name that is no field is given no value. -/
theorem get?_collect_of_undeclared (undeclared : name ∉ type.fieldNames)
    (items : List (String × Value)) (fields : Entries Value) :
    (type.collect items fields).get? name = fields.get? name := by
  induction items generalizing fields with
  | nil => rfl
  | cons item items ih =>
    obtain ⟨column, value⟩ := item
    rw [collect]
    split
    · next collected =>
      have apart : type.fieldName column ≠ name := by
        rintro rfl
        simp [undeclared] at collected
      rw [ih, Entries.get?_put, if_neg apart]
    · exact ih fields

/-- A field is given the value of its first column. -/
theorem get?_collect_of_declared (declared : name ∈ type.fieldNames) (items : List (String × Value)) :
    (type.collect items Entries.empty).get? name = type.first? items name := by
  rw [get?_collect type declared, first?, columnsOf, List.head?_filter]
  rfl

/-- Every field is given the same by columns whose first of each field have the same value. -/
theorem get?_collect_congr
    (same : ∀ name ∈ type.fieldNames, type.first? items name = type.first? others name)
    (name : String) : (type.collect items Entries.empty).get? name =
      (type.collect others Entries.empty).get? name := by
  by_cases declared : name ∈ type.fieldNames
  · rw [get?_collect_of_declared declared, get?_collect_of_declared declared, same name declared]
  · rw [get?_collect_of_undeclared declared, get?_collect_of_undeclared declared]

/-- The columns of a field are among those that are mapped to any. -/
theorem columnsOf_filter_isDeclared (declared : name ∈ type.fieldNames)
    (items : List (String × Value)) :
    type.columnsOf (items.filter type.isDeclared) name = type.columnsOf items name := by
  rw [columnsOf, columnsOf, List.filter_filter]
  refine List.filter_congr fun item _ => ?_
  by_cases mapped : type.fieldName item.1 = name
  · simp [isDeclared, mapped, declared]
  · simp [mapped]

/-- Columns behind others of their fields are not the first. -/
theorem first?_append (later : ∀ item ∈ others, ∃ present ∈ items,
    type.fieldName present.1 = type.fieldName item.1) (name : String) :
    type.first? (items ++ others) name = type.first? items name := by
  rw [first?, first?, columnsOf, columnsOf, List.filter_append]
  cases own : items.filter fun item => type.fieldName item.1 == name with
  | cons first more => rfl
  | nil =>
    have none : (others.filter fun item => type.fieldName item.1 == name) = [] := by
      refine List.filter_eq_nil_iff.2 fun item mem => ?_
      obtain ⟨present, among, same⟩ := later item mem
      rw [← same]
      exact List.filter_eq_nil_iff.1 own present among
    rw [none]
    rfl

/-- There is no more than one column of a field among columns of different fields. -/
theorem columnsOf_perm (distinct : (items.map fun item => type.fieldName item.1).Nodup)
    (moved : items.Perm others) (name : String) :
    type.columnsOf items name = type.columnsOf others name := by
  have kept : (type.columnsOf items name).Perm (type.columnsOf others name) := moved.filter _
  have mapped : ∀ item ∈ type.columnsOf items name, type.fieldName item.1 = name := fun item mem => by
    simpa using (List.mem_filter.1 mem).2
  have apart : ((type.columnsOf items name).map fun item => type.fieldName item.1).Nodup :=
    (List.filter_sublist.map _).nodup distinct
  match own : type.columnsOf items name with
  | [] =>
    rw [own] at kept
    exact kept.nil_eq
  | [item] =>
    rw [own] at kept
    exact List.singleton_perm.1 kept
  | item :: other :: more =>
    rw [own] at mapped apart
    have same := (mapped item List.mem_cons_self).trans (mapped other (by simp)).symm
    simp [same] at apart

end RecordType

/-! ## Records -/

namespace Projection

variable {p : Projection ρ} {row other : Row}

/-- Rows whose first columns of each field have the same values come to the same. -/
theorem ofRow_congr (takes : p.TakesFields)
    (same : ∀ name ∈ p.type.fieldNames,
      p.type.first? row.items name = p.type.first? other.items name) : p.ofRow row = p.ofRow other := by
  obtain ⟨plan, builds⟩ := takes
  rw [ofRow, ofRow, builds, builds]
  exact plan.run_congr p.type.table (RecordType.get?_collect_congr same)

/-- Rows with the same columns of each field, in the same order, come to the same. -/
theorem ofRow_congr_of_columnsOf (takes : p.TakesFields)
    (same : ∀ name ∈ p.type.fieldNames,
      p.type.columnsOf row.items name = p.type.columnsOf other.items name) :
    p.ofRow row = p.ofRow other :=
  ofRow_congr takes fun name declared => by
    rw [RecordType.first?, RecordType.first?, same name declared]

/-- Columns of no field are not seen, wherever they stand. -/
theorem ofRow_of_declared (takes : p.TakesFields)
    (same : row.items.filter p.type.isDeclared = other.items.filter p.type.isDeclared) :
    p.ofRow row = p.ofRow other :=
  ofRow_congr_of_columnsOf takes fun name declared => by
    rw [← RecordType.columnsOf_filter_isDeclared declared row.items, same,
      RecordType.columnsOf_filter_isDeclared declared]

/-- The order in which columns of different fields stand is not seen. -/
theorem ofRow_of_perm (takes : p.TakesFields) {before items moved after : List (String × Value)}
    (perm : items.Perm moved)
    (distinct : ((items.filter p.type.isDeclared).map fun item => p.type.fieldName item.1).Nodup) :
    p.ofRow ⟨before ++ items ++ after⟩ = p.ofRow ⟨before ++ moved ++ after⟩ := by
  refine ofRow_congr_of_columnsOf takes fun name declared => ?_
  have inside : p.type.columnsOf items name = p.type.columnsOf moved name := by
    rw [← RecordType.columnsOf_filter_isDeclared declared items,
      RecordType.columnsOf_perm distinct (perm.filter _) name,
      RecordType.columnsOf_filter_isDeclared declared]
  simp only [RecordType.columnsOf, List.filter_append] at inside ⊢
  rw [inside]

end Projection

/-- A record that is built by taking fields depends on the value of the first column of each field and on
nothing else of a row.  So columns of no field may stand anywhere, columns may follow whose fields are
there already, and columns of different fields may stand in any order. -/
theorem records_see_first_columns (p : Projection ρ) (takes : p.TakesFields) :
    (∀ row other : Row, (∀ name ∈ p.type.fieldNames,
        p.type.first? row.items name = p.type.first? other.items name) →
      p.ofRow row = p.ofRow other) ∧
    (∀ row other : Row,
      row.items.filter p.type.isDeclared = other.items.filter p.type.isDeclared →
        p.ofRow row = p.ofRow other) ∧
    (∀ items later : List (String × Value), (∀ item ∈ later, ∃ present ∈ items,
        p.type.fieldName present.1 = p.type.fieldName item.1) →
      p.ofRow ⟨items⟩ = p.ofRow ⟨items ++ later⟩) ∧
    (∀ before items moved after : List (String × Value), items.Perm moved →
      ((items.filter p.type.isDeclared).map fun item => p.type.fieldName item.1).Nodup →
        p.ofRow ⟨before ++ items ++ after⟩ = p.ofRow ⟨before ++ moved ++ after⟩) ∧
    (∀ row other : Row, (∀ name ∈ p.type.fieldNames,
        p.type.columnsOf row.items name = p.type.columnsOf other.items name) →
      p.ofRow row = p.ofRow other) ∧
    ∀ type : RecordType, type.projection.TakesFields ∧
      ∀ row, type.projection.ofRow row = type.ofRow row :=
  ⟨fun _ _ => Projection.ofRow_congr takes, fun _ _ => Projection.ofRow_of_declared takes,
    fun _ _ follow => Projection.ofRow_congr takes fun name _ =>
      (RecordType.first?_append follow name).symm,
    fun _ _ _ _ => Projection.ofRow_of_perm takes,
    fun _ _ => Projection.ofRow_congr_of_columnsOf takes,
    fun type => ⟨type.takesFields_projection, fun _ => rfl⟩⟩

/-- Records of ships whose registry is kept in a column of another name. -/
def shipType : RecordType :=
  ⟨"ships", [⟨"registry", .text, false⟩, ⟨"crew", .integer, true⟩], [("ships_val", "registry")]⟩

/-- A ship that is joined with its captain, in whatever order, is the ship alone. -/
theorem records_see_first_columns_ship :
    shipType.projection.TakesFields ∧
      shipType.ofRow ⟨[("ships_val", .text "NX-01"), ("crew", .integer 83)]⟩ =
        shipType.ofRow ⟨[("captain", .text "archer"), ("crew", .integer 83), ("ships_val", .text "NX-01"),
          ("registry", .text "NCC-1701"), ("crew", .null)]⟩ := by
  have takes := shipType.takesFields_projection
  obtain ⟨-, inserts, appends, permutes, -, -⟩ := records_see_first_columns shipType.projection takes
  have swapped := permutes [] [("ships_val", .text "NX-01"), ("crew", .integer 83)]
    [("crew", .integer 83), ("ships_val", .text "NX-01")] [] (.swap _ _ []) (by decide)
  have joined := inserts ⟨[("crew", .integer 83), ("ships_val", .text "NX-01")]⟩
    ⟨[("captain", .text "archer"), ("crew", .integer 83), ("ships_val", .text "NX-01")]⟩ rfl
  have repeated := appends [("captain", .text "archer"), ("crew", .integer 83), ("ships_val", .text "NX-01")]
    [("registry", .text "NCC-1701"), ("crew", .null)] (by decide)
  exact ⟨takes, swapped.trans (joined.trans repeated)⟩

end Registrar
