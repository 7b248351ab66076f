import Registrar.Proofs.Calendar
import Registrar.Proofs.Giving

/-!
# Values that come back

A cell is what a column stores of a value, and what is read of the cell depends on the declared type of
the column.  Of a value of the kind that the type stands for, and of a missing one, the same value is
read: a boolean is stored as a whole number, and dates and timestamps as texts that a column of numbers
leaves alone.
-/

namespace Registrar

open Registrar.Text Registrar.Sql Registrar.Calendar

section Types

namespace Sql

/-- The affinity of a column is that of its declared type. -/
def Column.IsTyped (c : Column) : Prop :=
  c.affinity = if upperAscii c.declared = "ANY" then .numeric else Affinity.ofDeclared c.declared

instance (c : Column) : Decidable c.IsTyped :=
  inferInstanceAs (Decidable (_ = _))

/-- Capitals are their own capitals. -/
theorem upperAscii_upperAscii (s : String) : upperAscii (upperAscii s) = upperAscii s := by
  have again (c : Char) : upperChar (upperChar c) = upperChar c := by
    unfold upperChar
    split
    · next small =>
      have least : 97 ≤ c.toNat := small.1
      have most : c.toNat ≤ 122 := small.2
      have valid : (c.toNat - 32).isValidChar := .inl (by omega)
      have value : (Char.ofNat (c.toNat - 32)).toNat = c.toNat - 32 := by
        rw [Char.ofNat, dif_pos valid]
        rfl
      refine if_neg fun low => ?_
      have above : 97 ≤ (Char.ofNat (c.toNat - 32)).toNat := low.1
      omega
    · rfl
  simp only [upperAscii, mapChars, String.toList_ofList, List.map_map]
  exact congrArg String.ofList (List.map_congr_left fun c _ => again c)

/-- A type is shown in capitals or as it was declared. -/
theorem upperAscii_shownType (declared : String) :
    upperAscii (shownType declared) = upperAscii declared := by
  rw [shownType]
  split
  · exact upperAscii_upperAscii declared
  · rfl

/-- Types that are the same in capitals have one affinity. -/
theorem Affinity.ofDeclared_congr {a b : String} (same : upperAscii a = upperAscii b) :
    Affinity.ofDeclared a = Affinity.ofDeclared b := by
  rw [Affinity.ofDeclared, Affinity.ofDeclared, same]

/-- A column that is declared has the affinity of its type, whatever its rules are. -/
theorem isTyped_of_column {decl : ColumnDecl} {column : Column}
    (ruled : decl.column decl.rules decl.bare = .ok column) : column.IsTyped := by
  obtain ⟨-, type, affinity⟩ := of_column ruled
  have capitals : upperAscii column.declared = upperAscii decl.declared := by
    rw [type]
    exact upperAscii_shownType decl.declared
  rw [Column.IsTyped, affinity, capitals, Affinity.ofDeclared_congr capitals]
  rfl

/-- The columns that are declared have the affinities of their types. -/
theorem isTyped_of_declareColumns {decls : List ColumnDecl} {known columns : List Column}
    (typed : ∀ c ∈ known, c.IsTyped) (done : declareColumns known decls = .ok columns) :
    ∀ c ∈ columns, c.IsTyped := by
  induction decls generalizing known with
  | nil =>
    rw [← Except.ok.inj done]
    exact typed
  | cons decl decls ih =>
    rw [declareColumns] at done
    split at done
    · cases done
    · obtain ⟨column, ruled, done⟩ := bind_eq_ok done
      refine ih (fun c mem => ?_) done
      rcases List.mem_append.1 mem with before | own
      · exact typed c before
      · rw [List.mem_singleton.1 own]
        exact isTyped_of_column ruled

/-- A primary key changes no types. -/
theorem isTyped_of_addPrimaryKey {t u : Table} {columns : List Nat} {showsId counting : Bool}
    (typed : ∀ c ∈ t.columns, c.IsTyped) (done : t.addPrimaryKey columns showsId counting = .ok u) :
    ∀ c ∈ u.columns, c.IsTyped := by
  intro c mem
  rw [(of_addPrimaryKey done).1] at mem
  obtain ⟨i, here⟩ := List.getElem?_of_mem mem
  obtain ⟨d, _, there, rfl⟩ := Table.of_withKeyPlaces here
  exact typed d (List.mem_of_getElem? there)

/-- The columns of a table have the affinities of their types. -/
def Item.IsTyped : Item → Prop
  | .table t => ∀ c ∈ t.columns, c.IsTyped
  | .view _ => True

/-- Every column of a table that there can be has the affinity of its type. -/
theorem Store.Reached.isTyped {s : Store} (reached : s.Reached) {name : String} {t : Table}
    (found : s.database.table? name = some t) : ∀ c ∈ t.columns, c.IsTyped := by
  have lasting : Lasting Item.IsTyped := by
    intro t u same typed
    obtain ⟨-, columns, -⟩ := Table.of_shape same
    show ∀ c ∈ u.columns, c.IsTyped
    rw [columns]
    exact typed
  have counter : (Item.table sequenceTable).IsTyped := by
    show ∀ c ∈ sequenceTable.columns, c.IsTyped
    decide
  have declares {name declaration : String} {decls : List ColumnDecl} {rules : List TableRule} {t : Table}
      (declares : declareTable name declaration decls rules = .ok t) : (Item.table t).IsTyped := by
    refine Declaring.of_declareTable_unchecked (fun typed _ _ columns _ _ => ?_) isTyped_of_addPrimaryKey
      (fun columns listed => isTyped_of_declareColumns (by exact nofun) listed) declares
    rw [columns]
    exact typed
  exact (reached.all lasting counter declares fun _ => trivial).1.of_table? found

end Sql

end Types

/-- What is read of a cell of a column. -/
def Sql.Column.reading (c : Column) (cell : Cell) : Value :=
  (Value.ofCell cell).declaredAs (declaredType (some c.declared))

/-- Whether a value is of the kind that a declared type stands for, or missing. -/
inductive Value.IsOf (declared : String) : Value → Prop
  | null : IsOf declared .null
  | integer (n : Int64) (type : upperAscii declared = "INTEGER") : IsOf declared (.integer n)
  | text (s : String) (type : upperAscii declared = "TEXT") : IsOf declared (.text s)
  | blob (bytes : List UInt8) (type : upperAscii declared = "BLOB") : IsOf declared (.blob bytes)
  | boolean (b : Bool) (type : upperAscii declared ∈ ["BOOLEAN", "BOOL"]) : IsOf declared (.boolean b)
  | date (d : Date) (type : upperAscii declared = "DATE") : IsOf declared (.date d)
  | timestamp (t : Timestamp) (type : upperAscii declared ∈ ["TIMESTAMP", "DATETIME"]) :
    IsOf declared (.timestamp t)

section Readings

variable {c : Column} {declared word : String}

/-- A missing value is read of a cell that holds nothing. -/
theorem reading_null (c : Column) : c.reading .null = .null := by
  rw [Column.reading, Value.declaredAs]
  split
  · next type _ => cases type <;> rfl
  · rfl

/-- Nothing is stored as nothing. -/
theorem store_null (affinity : Affinity) : Cell.store affinity .null = .null := by
  cases affinity <;> rfl

/-- Whether text is without parentheses and blanks. -/
def isWhole (s : String) : Bool :=
  s.toList.all fun c => c != '(' && !isBlank c

/-- No character of such text is a parenthesis or a blank. -/
theorem isWhole_iff {s : String} :
    isWhole s = true ↔ ∀ c ∈ s.toList, c ≠ '(' ∧ isBlank c = false := by
  simp [isWhole]

/-- Text without parentheses and blanks is taken for a type as a whole. -/
theorem bareType_of_letters {s : String} (letters : ∀ c ∈ s.toList, c ≠ '(' ∧ isBlank c = false) :
    String.ofList (trimChars (s.toList.takeWhile (· != '('))) = s := by
  have whole : s.toList.takeWhile (· != '(') = s.toList := by
    rw [List.takeWhile_eq_self_iff]
    exact fun c mem => bne_iff_ne.2 (letters c mem).1
  have trimmed : trimChars s.toList = s.toList :=
    trimChars_of_ends (fun c first => (letters c (List.mem_of_mem_head? first)).2)
      fun c last => (letters c (List.mem_of_getLast? last)).2
  rw [whole, trimmed, String.ofList_toList]

/-- A type that is in capitals a word is named like the word. -/
theorem ofName?_of_letters (type : upperAscii declared = word)
    (letters : ∀ c ∈ word.toList, c ≠ '(' ∧ isBlank c = false) :
    DeclaredType.ofName? declared = DeclaredType.ofName? word := by
  have capitals : declared.toList.map upperChar = word.toList := by
    rw [← type, upperAscii, mapChars, String.toList_ofList]
  have kept : ∀ c ∈ declared.toList, c ≠ '(' ∧ isBlank c = false := by
    intro c mem
    have capital : upperChar c ∈ word.toList := by
      rw [← capitals]
      exact List.mem_map_of_mem mem
    refine ⟨?_, ?_⟩
    · rintro rfl
      exact (letters _ capital).1 (by decide)
    · rw [← isBlank_upperChar]
      exact (letters _ capital).2
  have own : upperAscii word = word := by
    rw [← type]
    exact upperAscii_upperAscii declared
  rw [DeclaredType.ofName?, DeclaredType.ofName?, bareType_of_letters kept, bareType_of_letters letters,
    type, own]

/-- Words that are types of columns, with the affinity that they give and what is made of cells. -/
def typeWords : List (String × Affinity × Option DeclaredType) :=
  [("INTEGER", .integer, none), ("TEXT", .text, none), ("BLOB", .blob, none),
    ("BOOLEAN", .numeric, some .boolean), ("BOOL", .numeric, some .boolean),
    ("DATE", .numeric, some .date), ("TIMESTAMP", .numeric, some .timestamp),
    ("DATETIME", .numeric, some .timestamp)]

/-- The words mean what is said of them. -/
theorem of_mem_typeWords : ∀ entry ∈ typeWords, entry.1 ≠ "" ∧ entry.1 ≠ "ANY" ∧
    isWhole entry.1 = true ∧ Affinity.ofDeclared entry.1 = entry.2.1 ∧
      DeclaredType.ofName? entry.1 = entry.2.2 := by
  decide

/-- What a column stores and what is read of its cells, where its type is in capitals such a word. -/
theorem of_typeWord {affinity : Affinity} {kind : Option DeclaredType} (typed : c.IsTyped)
    (type : (upperAscii c.declared, affinity, kind) ∈ typeWords) :
    c.affinity = affinity ∧ ∀ cell, c.reading cell = match kind with
      | some kind => kind.convert (Value.ofCell cell)
      | none => Value.ofCell cell := by
  obtain ⟨filled, other, whole, own, named⟩ := of_mem_typeWords _ type
  have capitals : upperAscii c.declared = upperAscii (upperAscii c.declared) :=
    (upperAscii_upperAscii c.declared).symm
  have present : c.declared.isEmpty = false := by
    rw [Bool.eq_false_iff]
    intro empty
    rw [String.isEmpty_iff.1 empty] at filled
    exact filled rfl
  have given : declaredType (some c.declared) = some c.declared := by
    rw [declaredType, Option.filter_some, present]
    rfl
  refine ⟨?_, fun cell => ?_⟩
  · rw [typed, if_neg other, Affinity.ofDeclared_congr capitals]
    exact own
  · rw [Column.reading, given, Value.declaredAs, Option.bind_some, ofName?_of_letters rfl (isWhole_iff.1 whole),
      named]
    cases kind <;> rfl

/-- Text that stands for no number is stored as it is. -/
theorem store_numeric_text {s : String} (unnumbered : Cell.number? s.toList = none) :
    Cell.store .numeric (.text s) = .text s := by
  rw [Cell.store, unnumbered]

/-- A date is read of what is stored of it. -/
theorem convert_date (d : Date) :
    DeclaredType.date.convert (Value.ofCell (Cell.store .numeric (Value.date d).stored)) = .date d := by
  have chars : d.text.toList = d.chars := String.toList_ofList
  have unnumbered : Cell.number? d.text.toList = none := by
    have none := number?_date d []
    rwa [List.append_nil, ← chars] at none
  have stored : (Value.date d).stored = .text d.text := rfl
  rw [stored, store_numeric_text unnumbered]
  show ((readDate? (trimChars d.text.toList)).map Value.date).getD _ = _
  rw [readDate?_text]
  rfl

/-- A timestamp is read of what is stored of it. -/
theorem convert_timestamp (t : Timestamp) :
    DeclaredType.timestamp.convert (Value.ofCell (Cell.store .numeric (Value.timestamp t).stored)) =
      .timestamp t := by
  have chars : t.text.toList = t.chars ' ' := String.toList_ofList
  have unnumbered : Cell.number? t.text.toList = none := by
    rw [chars]
    exact number?_date t.date _
  have stored : (Value.timestamp t).stored = .text t.text := rfl
  rw [stored, store_numeric_text unnumbered]
  show ((readTimestamp? (trimChars t.text.toList)).map Value.timestamp).getD _ = _
  rw [readTimestamp?_text]
  rfl

/-- A value of the kind that the type of a column stands for is read of what the column stores of it. -/
theorem reading_store {value : Value} (typed : c.IsTyped) (own : value.IsOf c.declared) :
    c.reading (Cell.store c.affinity value.stored) = value := by
  cases own with
  | null =>
    show c.reading (Cell.store c.affinity .null) = _
    rw [store_null, reading_null]
  | integer n type =>
    have word : (upperAscii c.declared, Affinity.integer, none) ∈ typeWords := by
      rw [type]
      decide
    obtain ⟨affinity, reads⟩ := of_typeWord typed word
    rw [affinity, reads]
    rfl
  | text s type =>
    have word : (upperAscii c.declared, Affinity.text, none) ∈ typeWords := by
      rw [type]
      decide
    obtain ⟨affinity, reads⟩ := of_typeWord typed word
    rw [affinity, reads]
    rfl
  | blob bytes type =>
    have word : (upperAscii c.declared, Affinity.blob, none) ∈ typeWords := by
      rw [type]
      decide
    obtain ⟨affinity, reads⟩ := of_typeWord typed word
    rw [affinity, reads]
    rfl
  | boolean b type =>
    have word : (upperAscii c.declared, Affinity.numeric, some DeclaredType.boolean) ∈ typeWords := by
      rcases List.mem_pair.1 type with type | type <;> rw [type] <;> decide
    obtain ⟨affinity, reads⟩ := of_typeWord typed word
    rw [affinity, reads]
    cases b <;> rfl
  | date d type =>
    have word : (upperAscii c.declared, Affinity.numeric, some DeclaredType.date) ∈ typeWords := by
      rw [type]
      decide
    obtain ⟨affinity, reads⟩ := of_typeWord typed word
    rw [affinity, reads]
    exact convert_date d
  | timestamp t type =>
    have word : (upperAscii c.declared, Affinity.numeric, some DeclaredType.timestamp) ∈ typeWords := by
      rcases List.mem_pair.1 type with type | type <;> rw [type] <;> decide
    obtain ⟨affinity, reads⟩ := of_typeWord typed word
    rw [affinity, reads]
    exact convert_timestamp t

end Readings

end Registrar
