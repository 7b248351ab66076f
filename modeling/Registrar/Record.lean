import Registrar.Failure
import Registrar.Row

/-!
# Records

A record is a row seen through a declaration: which fields it has, what they hold, and which
columns go by other names.  Columns that belong to no field are passed over, and the first of
several columns of a field counts.
-/

namespace Registrar

/-- A field of a record. -/
structure Field where
  name : String
  kind : FieldKind
  /-- The field may be missing. -/
  optional : Bool

/-- The declaration of a kind of record. -/
structure RecordType where
  /-- The table that keeps the records. -/
  table : String
  /-- The fields, in the order of their declaration. -/
  fields : List Field
  /-- Columns whose fields have other names, with those names. -/
  rename : List (String × String)

/-- Reads a value as a value of a kind.  A null is kept where a value may be missing. -/
def FieldKind.read (kind : FieldKind) (optional : Bool) (value : Value) : Except Failure Value :=
  if optional && value.isNull then .ok .null
  else
    match kind.read? value with
    | some value => .ok value
    | none => .error (.rejected (.wrongKind kind value))

/-- A record: the values of its fields, in the order of their declaration. -/
structure Record where
  type : RecordType
  values : List Value

/-- Values of fields that have not been taken yet. -/
structure FieldSet where
  table : String
  values : Entries Value

namespace FieldSet

/-- Takes a field out.  A field that is missing or null is refused unless it is optional. -/
def take (fields : FieldSet) (field : Field) : Except Failure Value × FieldSet :=
  let rest := { fields with values := fields.values.remove field.name }
  match fields.values.get? field.name with
  | none | some .null =>
    if field.optional then (.ok .null, rest)
    else (.error (.rejected (.missingField fields.table field.name)), rest)
  | some value => (field.kind.read false value, rest)

/-- Takes fields out one after another, up to the first that is refused. -/
def takeAll (fields : FieldSet) : List Field → Except Failure (List Value)
  | [] => .ok []
  | field :: more =>
    match fields.take field with
    | (.error f, _) => .error f
    | (.ok value, rest) => do
      let values ← rest.takeAll more
      .ok (value :: values)

end FieldSet

namespace RecordType

/-- The names of the fields. -/
def fieldNames (type : RecordType) : List String :=
  type.fields.map Field.name

/-- The field of a column. -/
def fieldName (type : RecordType) (column : String) : String :=
  match type.rename.find? fun entry => entry.1 == column with
  | some entry => entry.2
  | none => column

/-- The column of a field. -/
def columnName (type : RecordType) (field : String) : String :=
  match type.rename.find? fun entry => entry.2 == field with
  | some entry => entry.1
  | none => field

/-- Builds a record from the values of its fields. -/
def ofFields (type : RecordType) (values : Entries Value) : Except Failure Record := do
  let values ← FieldSet.takeAll ⟨type.table, values⟩ type.fields
  .ok ⟨type, values⟩

/-- Collects the values of the fields of a row; the first column of a field counts. -/
def collect (type : RecordType) : List (String × Value) → Entries Value → Entries Value
  | [], fields => fields
  | (column, value) :: items, fields =>
    let field := type.fieldName column
    if type.fieldNames.contains field && (fields.get? field).isNone then
      type.collect items (fields.put field value)
    else type.collect items fields

/-- Builds a record from a row. -/
def ofRow (type : RecordType) (row : Row) : Except Failure Record :=
  type.ofFields (type.collect row.items Entries.empty)

/-- Builds a record from values by field; a name that is no field is refused. -/
def ofValues (type : RecordType) (values : Entries Value) : Except Failure Record :=
  match values.names.find? fun name => !type.fieldNames.contains name with
  | some name => .error (.rejected (.unknownField type.table name))
  | none => type.ofFields values

/-- Builds records from rows, up to the first row that is refused. -/
def ofRows (type : RecordType) : List Row → Except Failure (List Record)
  | [] => .ok []
  | row :: rows => do
    let record ← type.ofRow row
    let records ← type.ofRows rows
    .ok (record :: records)

end RecordType

namespace Record

/-- The fields and their values. -/
def pairs (record : Record) : List (String × Value) :=
  record.type.fieldNames.zip record.values

/-- The values by field. -/
def entries (record : Record) : Entries Value :=
  Entries.ofList record.pairs

/-- The value of a field, null for a name that is no field. -/
def field (record : Record) (name : String) : Value :=
  ((record.pairs.find? fun pair => pair.1 == name).map Prod.snd).getD .null

/-- The text of a record for data interchange. -/
def data (record : Record) : String :=
  Value.dataPairs record.entries.pairs

/-- The values of the fields with commas between them. -/
def commaText (record : Record) : String :=
  ",".intercalate (record.values.map Value.display)

/-- The values by column. -/
def columnValues (record : Record) : Entries Value :=
  Entries.ofList (record.pairs.map fun pair => (record.type.columnName pair.1, pair.2))

end Record

end Registrar
