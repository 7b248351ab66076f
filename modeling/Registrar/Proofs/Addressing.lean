import Registrar.Proofs.Insertion
import Registrar.Proofs.Questions
import Registrar.Proofs.Sql.Subjects

/-!
# The table that a verb is about

Every verb writes the name of its table into the statement that it runs.  An insertion and a change put it
between quotes, so they are about the table of this name whatever the name is.  A question, a removal and a
count write it as it is: they are about the same table as long as its name is no keyword, and otherwise
they are refused at the name.
-/

namespace Registrar

open Registrar.Sql Registrar.Sql.Token

namespace Call

variable {store : Store} {table : String} {t : Sql.Table} {statement : Statement}

/-- A statement is about the table of a name: it is read as one statement that names the table, and what it
means, if it means anything, is about this very table. -/
def Addresses (store : Store) (statement : Statement) (table : String) (t : Sql.Table) : Prop :=
  ∃ means n, parse statement.text = .ok ⟨some means, n, statement.text, []⟩ ∧
    means.subject? = some table ∧
    ∀ action, store.prepare statement.text means = .ok action → action.subject? = some t.name

/-- A statement is refused as no SQL, because of the name of its table, whatever store it is run on. -/
def IsRefusedAt (statement : Statement) (table : String) : Prop :=
  ∃ place, parse statement.text = .error ((Problem.unexpected table).at place) ∧
    ∀ store, runOn store statement =
      .error (.statement ⟨.unexpected table, some place, statement.text⟩)

/-- The statements of the verbs that write the name of their table between quotes: insertions and changes. -/
inductive QuotesTable (table : String) : Statement → Prop
  | insert {pairs : List (String × Value)} : (∀ name ∈ pairs.map Prod.fst, IsPlainName name) →
      pairs.length ≤ 32766 → QuotesTable table (insertStatement table pairs)
  | update {values : Entries Value} {condition : Condition} {statement : Statement} :
      (∀ name ∈ values.names, IsPlainName name) → values.names.length ≤ 32766 →
      condition.IsPlainIn table values.names.length →
      updateStatement table values condition = .ok statement → QuotesTable table statement

/-- The statements of the verbs that write the name of their table as it is: questions, removals and the
count of all rows. -/
inductive WritesTable (table : String) : Statement → Prop
  | select {question : Question} {statement : Statement} : question.table = table → question.IsPlain →
      question.statement = .ok statement → WritesTable table statement
  | delete {condition : Condition} {statement : Statement} : condition.IsPlainIn table 0 →
      deleteStatement table (some condition) = .ok statement → WritesTable table statement
  | count : WritesTable table ⟨"SELECT COUNT(*) AS count FROM " ++ table, []⟩

/-- A statement that is read as one that names a table is about this table. -/
theorem Addresses.of_parse {means : Sql.Statement} {n : Nat}
    (found : store.database.find? table = some (.table t))
    (read : parse statement.text = .ok ⟨some means, n, statement.text, []⟩)
    (names : means.subject? = some table) : Addresses store statement table t :=
  ⟨means, n, read, names, fun _ prepared => subject_of_prepare found names prepared⟩

/-- A statement that is not read is refused. -/
theorem IsRefusedAt.of_parse
    (refused : ∃ place, parse statement.text = .error ((Problem.unexpected table).at place)) :
    IsRefusedAt statement table := by
  obtain ⟨place, refused⟩ := refused
  refine ⟨place, refused, fun store => ?_⟩
  rw [runOn, ready, Store.ready, refused]
  rfl

/-- A statement that is refused is about no table. -/
theorem IsRefusedAt.not_addresses {other : String} (refused : IsRefusedAt statement other) :
    ¬ Addresses store statement table t := by
  obtain ⟨place, refused, -⟩ := refused
  rintro ⟨means, n, read, -⟩
  rw [refused] at read
  cases read

/-- A statement that quotes its table is about this table. -/
theorem QuotesTable.addresses (quotes : QuotesTable table statement)
    (found : store.database.find? table = some (.table t)) (named : isIdentifier table = true) :
    Addresses store statement table t := by
  cases quotes with
  | @insert pairs plain few =>
    cases pairs with
    | nil => exact .of_parse found (parse_defaults named) rfl
    | cons pair pairs =>
      have present : (pair :: pairs).map Prod.fst ≠ [] := by simp
      have read := parse_insertion named present (fun name mem => (plain name mem).bare)
        (by simpa using few)
      rw [insertStatement_eq (List.cons_ne_nil pair pairs)]
      exact .of_parse found read rfl
  | update plain few condition built =>
    obtain ⟨clause, -, present, valid, accepted, speaks, rfl⟩ := built_updateStatement built
    obtain ⟨ls, tells⟩ := tells_of_clause named accepted speaks condition.plain
    obtain ⟨e, -, read⟩ := parse_revision named present valid tells
      (fun name mem => (plain name mem).2) few (condition.readable clause accepted)
    exact .of_parse found read rfl

/-- A question is about its table, unless the name is a keyword; then it is refused. -/
theorem addresses_asking (found : store.database.find? table = some (.table t))
    (named : isIdentifier table = true) {shown filtered : String}
    {ls ms : List (TokenKind × List Char)} {names : List String} (shows : Shows shown ls)
    (filters : Filters filtered ms) (plain : ∀ name ∈ names, IsPlainName name)
    (written : statement.text = askingText shown table filtered names) :
    if isReserved table then IsRefusedAt statement table else Addresses store statement table t := by
  split
  · next reserved =>
    refine .of_parse ?_
    rw [written]
    exact parse_asking_reserved named reserved shows filters fun name mem => (plain name mem).1
  · next free =>
    obtain ⟨query, n, sources, read⟩ := parse_asking named (by simpa using free) shows filters plain
    rw [← written] at read
    refine .of_parse found read ?_
    rw [Sql.Statement.subject?, sources]
    rfl

/-- A statement that writes its table as it is is about this table, unless the name is a keyword; then it
is refused. -/
theorem WritesTable.addresses (writes : WritesTable table statement)
    (found : store.database.find? table = some (.table t)) (named : isIdentifier table = true) :
    if isReserved table then IsRefusedAt statement table else Addresses store statement table t := by
  cases writes with
  | select same plain built =>
    subst same
    obtain ⟨ls, shows⟩ := plain.columns.shows
    obtain ⟨filtered, ms, filters, written⟩ := plain.text_eq built
    exact addresses_asking found named shows filters plain.order written
  | count =>
    have unordered : ∀ name ∈ ([] : List String), IsPlainName name := by exact nofun
    refine addresses_asking found named shows_count filters_nothing unordered ?_
    simp [askingText, orderText]
  | delete condition built =>
    obtain ⟨given, clause, same, -, accepted, speaks, rfl⟩ := built_deleteStatement built
    obtain rfl := Option.some.inj same
    obtain ⟨ls, tells⟩ := tells_of_clause named accepted speaks condition.plain
    split
    · next reserved => exact .of_parse (parse_deletion_reserved named tells reserved)
    · next free =>
      obtain ⟨e, -, read⟩ := parse_deletion named tells (by simpa using free)
        (condition.readable clause accepted)
      exact .of_parse found read rfl

end Call

/-- Which tables the five verbs are about.  An insertion and a change are about the table of the name that
they are given, whatever identifier this is.  A question, a removal and a count are about the same table
if, and only if, its name is no keyword; otherwise they are refused as no SQL, and the message names the
table.  So all five are about one table exactly if its name is no keyword. -/
theorem verbs_address_table_iff {store : Store} {table : String} {t : Sql.Table}
    (found : store.database.find? table = some (.table t)) (named : isIdentifier table = true) :
    (∀ statement, Call.QuotesTable table statement → Call.Addresses store statement table t) ∧
    (∀ statement, Call.WritesTable table statement →
      (Call.Addresses store statement table t ↔ isReserved table = false) ∧
      (Call.IsRefusedAt statement table ↔ isReserved table = true)) ∧
    ((∀ statement, Call.QuotesTable table statement ∨ Call.WritesTable table statement →
      Call.Addresses store statement table t) ↔ isReserved table = false) := by
  have quoted (statement : Statement) (quotes : Call.QuotesTable table statement) :
      Call.Addresses store statement table t := quotes.addresses found named
  have bare (statement : Statement) (writes : Call.WritesTable table statement) :
      (Call.Addresses store statement table t ↔ isReserved table = false) ∧
        (Call.IsRefusedAt statement table ↔ isReserved table = true) := by
    have reaches := writes.addresses found named
    cases reserved : isReserved table with
    | true =>
      rw [reserved, if_pos rfl] at reaches
      exact ⟨⟨fun addresses => absurd addresses reaches.not_addresses, nofun⟩,
        fun _ => rfl, fun _ => reaches⟩
    | false =>
      rw [reserved, if_neg Bool.false_ne_true] at reaches
      exact ⟨⟨fun _ => rfl, fun _ => reaches⟩,
        fun refused => absurd reaches refused.not_addresses, nofun⟩
  refine ⟨quoted, bare, fun all => ?_, fun free statement verb => ?_⟩
  · exact (bare _ .count).1.1 (all _ (.inr .count))
  · exact verb.elim (quoted statement) fun writes => (bare statement writes).1.2 free

section Orders

/-- The text that declares a table whose name is a keyword. -/
def ordersText : String :=
  "CREATE TABLE \"order\" (order_id INTEGER PRIMARY KEY, order_val TEXT)"

/-- A table whose name is a keyword. -/
def ordersTable : Sql.Table :=
  ⟨"order", [⟨"order_id", "INTEGER", .integer, .binary, false, 1, none⟩,
    ⟨"order_val", "TEXT", .text, .binary, false, 0, none⟩], some 0, false, [], [], [], [], ordersText⟩

/-- A row can be put into a table named `order`, and then not be asked for. -/
theorem verbs_address_table_order :
    isIdentifier "order" = true ∧
    Call.Addresses (.opened ⟨[.table ordersTable]⟩)
      (Call.insertStatement "order" [("order_val", .text "Defiant")]) "order" ordersTable ∧
    Call.IsRefusedAt ⟨"SELECT * FROM order", []⟩ "order" := by
  have named : isIdentifier "order" = true := by decide
  have found : (Store.opened ⟨[.table ordersTable]⟩).database.find? "order" =
      some (.table ordersTable) := rfl
  obtain ⟨quoted, bare, -⟩ := verbs_address_table_iff found named
  refine ⟨named, quoted _ (.insert (by decide) (by decide)), ?_⟩
  have plain : (Question.ofTable "order").IsPlain := ⟨rfl, rfl, nofun, nofun⟩
  have asked : Call.WritesTable "order" ⟨"SELECT * FROM order", []⟩ := .select rfl plain rfl
  exact (bare _ asked).2.2 (by decide)

end Orders

end Registrar
