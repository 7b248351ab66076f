import Registrar.Proofs.Filter.Stating
import Registrar.Proofs.Sql.Outputs
import Registrar.Proofs.Statements

/-!
# Plain questions

What a question is read as that joins no tables and whose columns go by plain names.  It is read up to the
name of its table, which stands in it without quotes; so a keyword stops the reading there, and any other
name does not.
-/

namespace Registrar

open Registrar.Sql Registrar.Sql.Token

/-- A text that shows the outputs of a question. -/
structure Shows (text : String) (ls : List (TokenKind × List Char)) : Prop where
  spells : Spells text.toList ls
  /-- No values are bound in it. -/
  unmarked : ∀ l ∈ ls, l.1 ≠ .parameter
  reads : ∀ {sql : List Char} {ts : List Token}, ts.map lexeme = ls → ShowsOutputs sql ts

/-- The columns of a question are all columns, or some of plain names. -/
def Columns.ArePlain : Columns → Prop
  | .raw text => text = "*"
  | .qualified pairs => pairs ≠ [] ∧ ∀ pair ∈ pairs, isIdentifier pair.1 = true ∧ IsPlainName pair.2
  | .list names => names ≠ [] ∧ ∀ name ∈ names, IsPlainName name

section Outputs

variable {α : Type} {items : List α}

/-- Commas between parts without marks leave them without marks. -/
theorem unmarked_commas {parts : List (List (TokenKind × List Char))}
    (each : ∀ part ∈ parts, ∀ l ∈ part, l.1 ≠ .parameter) :
    ∀ l ∈ [comma].intercalate parts, l.1 ≠ .parameter := by
  induction parts with
  | nil => exact nofun
  | cons part parts ih =>
    obtain ⟨first, others⟩ := List.forall_mem_cons.1 each
    cases parts with
    | nil => simpa using first
    | cons next parts =>
      rw [List.intercalate_cons_cons]
      intro l mem
      rw [List.mem_append, List.mem_append, List.mem_singleton] at mem
      rcases mem with (mem | rfl) | mem
      · exact first l mem
      · decide
      · exact ih others l mem

/-- The names of columns have no marks. -/
theorem Sql.NamesColumn.unmarked {column : List (TokenKind × List Char)} (names : NamesColumn column) :
    ∀ l ∈ column, l.1 ≠ .parameter := by
  cases names with
  | bare _ => simp [word]
  | qualified _ => simp [word, point, backquoted]

/-- Columns of plain names show outputs. -/
theorem shows_columns (part : α → String) (lexemes : α → List (TokenKind × List Char))
    (present : items ≠ []) (names : ∀ a ∈ items, NamesColumn (lexemes a))
    (each : ∀ a ∈ items, Spells (part a).toList (lexemes a)) :
    Shows (", ".intercalate (items.map part)) ([comma].intercalate (items.map lexemes)) := by
  have columns : ∀ column ∈ items.map lexemes, NamesColumn column := List.forall_mem_map.2 names
  exact ⟨spells_commas part lexemes present each,
    unmarked_commas fun column mem => (columns column mem).unmarked,
    showsOutputs_columns (by simpa using present) columns⟩

/-- The tokens of a column behind the name of its table. -/
def qualifiedLexemes (pair : String × String) : List (TokenKind × List Char) :=
  [backquoted pair.1, point, word pair.2]

/-- Columns behind the names of their tables show outputs. -/
theorem shows_qualified {pairs : List (String × String)} (present : pairs ≠ [])
    (each : ∀ pair ∈ pairs, isIdentifier pair.1 = true ∧ IsPlainName pair.2) :
    Shows (Columns.qualified pairs).written ([comma].intercalate (pairs.map qualifiedLexemes)) := by
  refine shows_columns Columns.qualifiedName qualifiedLexemes present
    (fun pair mem => .qualified (each pair mem).2.2) fun pair mem => ?_
  have spelled := spells_qualified (each pair mem).1 (each pair mem).2.1
  simpa [Columns.qualifiedName, qualifiedLexemes] using spelled

/-- Plain columns show outputs. -/
theorem Columns.ArePlain.shows {columns : Columns} (plain : columns.ArePlain) :
    ∃ ls, Shows columns.written ls := by
  cases columns with
  | raw text =>
    obtain rfl : text = "*" := plain
    refine ⟨[star], spells_star, by simp [Sql.star], fun {sql ts} written => ?_⟩
    obtain ⟨t, us, rfl, isStar, nothing⟩ := List.map_eq_cons_iff.1 written
    obtain rfl := List.map_eq_nil_iff.1 nothing
    exact showsOutputs_star (isSymbol_of_symbol isStar "*")
  | qualified pairs =>
    exact ⟨_, shows_qualified plain.1 plain.2⟩
  | list names =>
    obtain ⟨present, each⟩ := plain
    have shown := shows_columns id (fun name => [word name]) present
      (fun name mem => .bare (each name mem).2) fun name mem => spells_name name (each name mem).1
    rw [List.map_id] at shown
    exact ⟨_, shown⟩

/-- The number of rows shows an output. -/
theorem shows_count : Shows "COUNT(*) AS count" [word "COUNT", (.symbol, ['(']), star,
    (.symbol, [')']), word "AS", word "count"] := by
  have closed : isClosed "COUNT(*) AS count" = true := by decide
  have cut : lexemes "COUNT(*) AS count".toList = [word "COUNT", (.symbol, ['(']), star,
    (.symbol, [')']), word "AS", word "count"] := by decide
  refine ⟨⟨⟨'C', _, rfl, by decide⟩, fun start rest breaks => ?_⟩, by decide, showsOutputs_count⟩
  exact ⟨_, (map_lexeme_scanAt start _).trans cut, (cuts_of_isClosed closed).scans start rest breaks⟩

end Outputs

section Trailing

variable {text : String} {cs : List Char} {ls ms : List (TokenKind × List Char)}

/-- A text behind another: nothing, or tokens behind a blank. -/
def Appends (text : String) (ls : List (TokenKind × List Char)) : Prop :=
  text = "" ∧ ls = [] ∨ ∃ part, text = " " ++ part ∧ Spells part.toList ls

/-- The tokens of a text that is appended stand behind those before it. -/
theorem Appends.spells (appends : Appends text ms) (first : Spells cs ls) :
    Spells (cs ++ text.toList) (ls ++ ms) := by
  rcases appends with ⟨rfl, rfl⟩ | ⟨part, rfl, spelled⟩
  · simpa using first
  · simpa using first.blank spelled

/-- What may stand behind the condition of a question: nothing, or the columns to sort by. -/
inductive EndsCondition : List Token → Prop
  | nothing : EndsCondition []
  | order {t : Token} {ts : List Token} : t.isWord "ORDER" = true → EndsCondition (t :: ts)

/-- Nothing and an order may also stand behind the table. -/
theorem EndsCondition.endsTable {rest : List Token} (ends : EndsCondition rest) : EndsTable rest := by
  cases ends with
  | nothing => exact .nothing
  | order isOrder => exact .word (by decide) isOrder

/-- Nothing and an order are no condition. -/
theorem EndsCondition.readCondition {rest : List Token} (ends : EndsCondition rest) :
    readCondition rest = .ok (none, rest) := by
  cases ends with
  | nothing => rfl
  | order isOrder =>
    have other : ("ORDER" == "WHERE") = false := by decide
    simp [Sql.readCondition, skipWord?, isWord_iff_of_isWord isOrder, other]

/-- The tokens of the columns that a question sorts by. -/
def orderLexemes (names : List String) : List (TokenKind × List Char) :=
  if names.isEmpty then []
  else word "ORDER" :: word "BY" :: [comma].intercalate (names.map fun name => [word name])

/-- The columns that a question sorts by, as it writes them. -/
def orderText (names : List String) : String :=
  if names.isEmpty then "" else " ORDER BY " ++ ", ".intercalate names

/-- The columns to sort by stand behind a question. -/
theorem appends_order {names : List String} (valid : ∀ name ∈ names, isIdentifier name = true) :
    Appends (orderText names) (orderLexemes names) := by
  rw [orderText, orderLexemes]
  split
  · exact .inl ⟨rfl, rfl⟩
  · next present =>
    have listed := spells_commas id (fun name => [word name]) (by simpa using present)
      fun name mem => spells_name name (valid name mem)
    rw [List.map_id] at listed
    have spelled := (spells_name "ORDER" (by decide)).blank ((spells_name "BY" (by decide)).blank listed)
    exact .inr ⟨"ORDER BY " ++ ", ".intercalate names, by rw [← String.append_assoc]; rfl,
      by simpa using spelled⟩

/-- The columns to sort by have no marks. -/
theorem unmarked_order (names : List String) : ∀ l ∈ orderLexemes names, l.1 ≠ .parameter := by
  rw [orderLexemes]
  split
  · exact nofun
  · have each : ∀ part ∈ names.map fun name => [word name], ∀ l ∈ part, l.1 ≠ .parameter :=
      List.forall_mem_map.2 fun name _ => by simp [word]
    have listed := unmarked_commas each
    simpa [word] using listed

/-- The columns to sort by are read, if none of them is a keyword. -/
theorem readBehind_orderLexemes {names : List String} {ts : List Token}
    (free : ∀ name ∈ names, isReserved name = false) (written : ts.map lexeme = orderLexemes names)
    (outputs : List Output) (sources : List Source) (condition : Option Expr) :
    EndsCondition ts ∧ ∃ query, query.sources = sources ∧
      readBehind outputs sources condition ts = .ok (query, []) := by
  rw [orderLexemes] at written
  split at written
  · obtain rfl := List.map_eq_nil_iff.1 written
    exact ⟨.nothing, _, rfl, readBehind_nil outputs sources condition⟩
  · next present =>
    obtain ⟨t, ts, rfl, isOrder, written⟩ := List.map_eq_cons_iff.1 written
    obtain ⟨u, ts, rfl, isBy, written⟩ := List.map_eq_cons_iff.1 written
    have isOrder := Call.isWord_keyword isOrder (by decide)
    exact ⟨.order isOrder, readBehind_order (by simpa using present)
      (List.forall_mem_map.2 fun name mem => .bare (free name mem)) written isOrder
      (Call.isWord_keyword isBy (by decide)) outputs sources condition⟩

/-- A text that is read as the condition of a question, or as none. -/
structure Filters (text : String) (ls : List (TokenKind × List Char)) : Prop where
  appends : Appends text ls
  unnamed : Unnamed ls
  reads : ∀ {ts rest : List Token}, ts.map lexeme = ls → Numbered 0 ts → EndsCondition rest →
    EndsTable (ts ++ rest) ∧ ∃ condition, readCondition (ts ++ rest) = .ok (condition, rest)

/-- A question may have no condition. -/
theorem filters_nothing : Filters "" [] where
  appends := .inl ⟨rfl, rfl⟩
  unnamed := nofun
  reads written _ ends := by
    obtain rfl := List.map_eq_nil_iff.1 written
    exact ⟨ends.endsTable, none, ends.readCondition⟩

/-- A condition that can be read is read behind a table. -/
theorem filters_clause {table : String} {condition : Condition} {clause : Clause}
    (tells : Tells table condition clause ls) (readable : condition.IsReadable clause 0) :
    Filters (" WHERE " ++ clause.text) (word "WHERE" :: ls) where
  appends := by
    have spelled := (spells_name "WHERE" (by decide)).blank tells.spells
    exact .inr ⟨"WHERE " ++ clause.text, by rw [← String.append_assoc]; rfl, by simpa using spelled⟩
  unnamed := Call.unnamed_word "WHERE" tells.unnamed
  reads written numbered ends := by
    obtain ⟨w, us, rfl, isWhere, written, numbered⟩ := tokens_of_cons (by decide) written numbered
    have isWhere := Call.isWord_keyword isWhere (by decide)
    obtain ⟨e, read, -⟩ := tells.reads written numbered readable
    refine ⟨.word (by decide) isWhere, some e, ?_⟩
    rw [List.cons_append, readCondition_cons isWhere, read _ ends.endsTable.halts]
    rfl

end Trailing

section Reading

variable {shown filtered table : String} {ls ms : List (TokenKind × List Char)} {names : List String}

/-- The text of a question. -/
def askingText (shown table filtered : String) (names : List String) : String :=
  "SELECT " ++ shown ++ " FROM " ++ table ++ filtered ++ orderText names

/-- The tokens of a question. -/
def askingLexemes (ls : List (TokenKind × List Char)) (table : String)
    (ms : List (TokenKind × List Char)) (names : List String) : List (TokenKind × List Char) :=
  word "SELECT" :: (ls ++ word "FROM" :: word table :: (ms ++ orderLexemes names))

/-- The tokens of a question are those of its parts. -/
theorem spells_asking (named : isIdentifier table = true) (shows : Shows shown ls)
    (appends : Appends filtered ms) (valid : ∀ name ∈ names, isIdentifier name = true) :
    Spells (askingText shown table filtered names).toList (askingLexemes ls table ms names) := by
  have front := (spells_name "SELECT" (by decide)).blank (shows.spells.blank
    ((spells_name "FROM" (by decide)).blank (spells_name table named)))
  have spelled := (appends_order valid).spells (appends.spells front)
  simpa [askingText, askingLexemes] using spelled

/-- Tokens without marks are without names for parameters. -/
theorem unnamed_of_unmarked (unmarked : ∀ l ∈ ls, l.1 ≠ .parameter) : Unnamed ls :=
  fun l mem isParameter => absurd isParameter (unmarked l mem)

/-- Tokens without marks need no parameters. -/
theorem parameterCount_of_unmarked (unmarked : ∀ l ∈ ls, l.1 ≠ .parameter) :
    parameterCount ls = 0 := by
  rw [parameterCount, List.countP_eq_zero]
  simpa using unmarked

/-- A question needs the parameters of what stands behind its table. -/
theorem parameterCount_asking (shows : Shows shown ls) :
    parameterCount (askingLexemes ls table ms names) = parameterCount ms := by
  simp [askingLexemes, word, parameterCount_of_unmarked shows.unmarked,
    parameterCount_of_unmarked (unmarked_order names)]

/-- The tokens of a question have no names for parameters. -/
theorem unnamed_asking (shows : Shows shown ls) (unnamed : Unnamed ms) :
    Unnamed (askingLexemes ls table ms names) :=
  Call.unnamed_word _ ((unnamed_of_unmarked shows.unmarked).append (Call.unnamed_word _
    (Call.unnamed_word _ (unnamed.append (unnamed_of_unmarked (unmarked_order names))))))

/-- The tokens of a question, with their numbers. -/
theorem tokens_of_asking (named : isIdentifier table = true) (shows : Shows shown ls)
    (appends : Appends filtered ms) (unnamed : Unnamed ms)
    (valid : ∀ name ∈ names, isIdentifier name = true) :
    ∃ s os f n fs us, Token.numbered (askingText shown table filtered names) =
        s :: (os ++ f :: n :: (fs ++ us)) ∧
      s.isWord "SELECT" = true ∧ os.map lexeme = ls ∧ f.isWord "FROM" = true ∧
      n.lexeme = word table ∧ fs.map lexeme = ms ∧ Numbered 0 fs ∧
      us.map lexeme = orderLexemes names := by
  obtain ⟨written, numbered⟩ :=
    (spells_asking named shows appends valid).numbered (unnamed_asking shows unnamed)
  obtain ⟨s, ts, tokens, isSelect, written, numbered⟩ := tokens_of_cons (by decide) written numbered
  obtain ⟨os, ts, rfl, outputs, written⟩ := List.map_eq_append_iff.1 written
  rw [numbered_append, outputs, parameterCount_of_unmarked shows.unmarked] at numbered
  obtain ⟨f, ts, rfl, isFrom, written, numbered⟩ := tokens_of_cons (by decide) written numbered.2
  obtain ⟨n, ts, rfl, isTable, written, numbered⟩ :=
    tokens_of_cons (word_ne_parameter table) written numbered
  obtain ⟨fs, us, rfl, filter, order⟩ := List.map_eq_append_iff.1 written
  exact ⟨s, os, f, n, fs, us, tokens, Call.isWord_keyword isSelect (by decide), outputs,
    Call.isWord_keyword isFrom (by decide), isTable, filter, (numbered_append.1 numbered).1, order⟩

/-- A question whose table is named by no keyword is read as one about this table. -/
theorem parse_asking (named : isIdentifier table = true) (free : isReserved table = false)
    (shows : Shows shown ls) (filters : Filters filtered ms) (plain : ∀ name ∈ names, IsPlainName name) :
    ∃ query n, query.sources = [⟨.inner, table, none, none, []⟩] ∧
      parse (askingText shown table filtered names) =
        .ok ⟨some (.select query), n, askingText shown table filtered names, []⟩ := by
  have valid : ∀ name ∈ names, isIdentifier name = true := fun name mem => (plain name mem).1
  obtain ⟨s, os, f, n, fs, us, tokens, isSelect, outputs, isFrom, isTable, filter, numbered, order⟩ :=
    tokens_of_asking named shows filters.appends filters.unnamed valid
  have isName : n.isName = true := by rw [isName_of_word isTable, free]; rfl
  have behind := readBehind_orderLexemes (fun name mem => (plain name mem).2) order
  obtain ⟨ends, -⟩ := behind [] [] none
  obtain ⟨endsTable, condition, read⟩ := filters.reads filter numbered ends
  have showsOutputs : ShowsOutputs (askingText shown table filtered names).toList os := shows.reads outputs
  obtain ⟨shownOutputs, reads⟩ :=
    readStatement_question isSelect showsOutputs isFrom isName endsTable
  obtain ⟨-, query, sources, rest⟩ :=
    behind shownOutputs [⟨.inner, table, none, none, []⟩] condition
  rw [read, unquoted_of_word isTable] at reads
  have reads : readStatement (askingText shown table filtered names).toList
      (Token.numbered (askingText shown table filtered names)) = .ok (.select query, []) := by
    rw [tokens, reads]
    simp only [bind, Except.bind, rest]
  exact ⟨query, _, sources,
    parse_of_spells (spells_asking named shows filters.appends valid)
      (unnamed_asking shows filters.unnamed) rfl reads⟩

/-- A question whose table is named by a keyword is refused at this name. -/
theorem parse_asking_reserved (named : isIdentifier table = true) (reserved : isReserved table = true)
    (shows : Shows shown ls) (filters : Filters filtered ms)
    (valid : ∀ name ∈ names, isIdentifier name = true) :
    ∃ place, parse (askingText shown table filtered names) =
      .error ((Problem.unexpected table).at place) := by
  obtain ⟨s, os, f, n, fs, us, tokens, isSelect, outputs, isFrom, isTable, -, -, -⟩ :=
    tokens_of_asking named shows filters.appends filters.unnamed valid
  have noName : n.isName = false := by rw [isName_of_word isTable, reserved]; rfl
  obtain ⟨kind, text⟩ := of_word isTable
  have begins : s.isSymbol ";" = false := isSymbol_of_isWord isSelect ";"
  refine ⟨n.start, ?_⟩
  rw [parse_eq tokens begins, readStatement_refused isSelect (shows.reads outputs) isFrom noName]
  simp [Stop.toFault, kind, text]

end Reading

/-- A condition that can be read in a statement about a table, behind some number of values. -/
structure Condition.IsPlainIn (table : String) (k : Nat) (condition : Condition) : Prop where
  plain : ∀ term ∈ condition.terms, term.IsPlain
  readable : ∀ clause, condition.clause table = .ok clause → condition.IsReadable clause k

/-- A question about one table that names its columns by plain names. -/
structure Question.IsPlain (question : Question) : Prop where
  columns : question.columns.ArePlain
  alone : question.joins = []
  filter : ∀ condition, question.filter = some condition → condition.IsPlainIn question.table 0
  order : ∀ name ∈ question.orderBy, IsPlainName name

/-- A plain question is the text of its columns, its table, its filter and its order. -/
theorem Question.IsPlain.text_eq {question : Question} {statement : Statement}
    (plain : question.IsPlain) (built : question.statement = .ok statement) :
    ∃ filtered ms, Filters filtered ms ∧ statement.text =
      askingText question.columns.written question.table filtered question.orderBy := by
  obtain ⟨table, named, built⟩ := bind_eq_ok built
  obtain ⟨rfl, valid⟩ := identifier_eq_ok_iff.1 named
  obtain ⟨columns, written, built⟩ := bind_eq_ok built
  obtain rfl := Columns.eq_written_of_text written
  obtain ⟨joins, added, built⟩ := bind_eq_ok built
  rw [plain.alone] at added
  obtain rfl := Except.ok.inj added
  obtain ⟨clause, filtered, built⟩ := bind_eq_ok built
  obtain ⟨orderBy, known, built⟩ := bind_eq_ok built
  obtain ⟨rfl, -⟩ := identifiers_eq_ok_iff.1 known
  rw [← Except.ok.inj built]
  have nothing : ∃ filtered ms, Filters filtered ms ∧
      "SELECT " ++ question.columns.written ++ " FROM " ++ question.table ++ "" ++ "" ++
        orderText question.orderBy =
      askingText question.columns.written question.table filtered question.orderBy :=
    ⟨"", [], filters_nothing, by rw [askingText, String.append_empty]⟩
  cases given : question.filter with
  | none =>
    rw [filterClause, given] at filtered
    obtain rfl := Except.ok.inj filtered
    exact nothing
  | some condition =>
    rw [filterClause, given] at filtered
    obtain ⟨own, accepted, filtered⟩ := bind_eq_ok filtered
    cases silent : own.isEmpty with
    | true =>
      rw [silent, if_pos rfl] at filtered
      obtain rfl := Except.ok.inj filtered
      exact nothing
    | false =>
      rw [silent, if_neg Bool.false_ne_true] at filtered
      obtain rfl := Except.ok.inj filtered
      obtain ⟨readable, reads⟩ := plain.filter condition given
      obtain ⟨ls, tells⟩ := tells_of_clause valid accepted silent readable
      refine ⟨_, _, filters_clause tells (reads own accepted), ?_⟩
      rw [askingText]
      exact congrArg (· ++ _ ++ _) String.append_empty

end Registrar
