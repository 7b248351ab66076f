import Registrar.Proofs.Binding
import Registrar.Proofs.Giving

/-!
# The columns that an insertion names

The names of the columns stand in an insertion as they are declared, without the quotes that the name of
the table has.  So the insertion is read as one that names these columns only if each name is a word that
is not kept for the grammar.  Then every value comes into the column of its name; a name with a blank
keeps a table from being inserted into at all.
-/

namespace Registrar

open Registrar.Text Registrar.Sql Registrar.Sql.Token Registrar.Sql.Database

namespace Call

section Reading

variable {table : String} {names : List String} {parsed : Parsed}

/-- What stands in an insertion behind the first letter of the word that follows its list of columns. -/
def insertionEnding (names : List String) : List Char :=
  ['A', 'L', 'U', 'E', 'S', ' ', '('] ++ ((Clause.marks names.length).toList ++ [')'])

/-- What stands in an insertion before its list of columns. -/
theorem insertionText_toList (table : String) (names : List String) :
    (insertionText table names).toList =
      ("INSERT".toList ++ ' ' :: ("INTO".toList ++ ' ' :: ('\x60' :: (table.toList ++ ['\x60'])))) ++
        ' ' :: '(' :: listed names (')' :: ' ' :: 'V' :: insertionEnding names) := by
  simp [insertionText, insertOpening, insertionEnding, listed_eq]

/-- The marks of a statement have no letters. -/
theorem of_mem_marks (n : Nat) {d : Char} (mem : d ∈ (Clause.marks n).toList) :
    d = '?' ∨ d = ',' ∨ d = ' ' := by
  match n with
  | 0 => cases mem
  | 1 => exact .inl (List.mem_singleton.1 mem)
  | n + 2 =>
    rw [marks_succ, String.toList_append, String.toList_append, List.mem_append, List.mem_append] at mem
    rcases mem with (mem | mem) | mem
    · exact .inl (List.mem_singleton.1 mem)
    · exact .inr (by simpa using mem)
    · exact of_mem_marks (n + 1) mem

/-- The words that may stand behind a list of columns start with a letter that does not occur again. -/
theorem not_mem_insertionEnding {d : Char} (first : upperChar d = 'V' ∨ upperChar d = 'D') :
    d ∉ insertionEnding names := by
  intro mem
  rw [insertionEnding, List.mem_append, List.mem_append] at mem
  have known : d ∈ ['A', 'L', 'U', 'E', 'S', ' ', '(', ')', '?', ','] := by
    rcases mem with mem | mem | mem
    · exact List.mem_append_left [')', '?', ','] mem
    · rcases of_mem_marks _ mem with rfl | rfl | rfl <;> decide
    · rw [List.mem_singleton.1 mem]
      decide
  have others : ∀ d ∈ ['A', 'L', 'U', 'E', 'S', ' ', '(', ')', '?', ','],
      upperChar d ≠ 'V' ∧ upperChar d ≠ 'D' := by simp [upperChar]
  rcases first with same | same
  · exact (others d known).1 same
  · exact (others d known).2 same

/-- An insertion that is read has read its list of columns up to a keyword. -/
theorem of_readStatement_insert {s i n o : Token} {us rest : List Token} {sql : List Char}
    {other : String} {columns : Option (List String)} {rows : NewRows} {returning : List Output}
    (isInsert : s.isWord "INSERT" = true) (isInto : i.isWord "INTO" = true) (isName : n.isName = true)
    (opens : o.isSymbol "(" = true)
    (read : readStatement sql (s :: i :: n :: o :: us) =
      .ok (.insert other columns rows returning, rest)) :
    ∃ names v behind, columns = some names ∧ readNames (o :: us) = .ok (names, v :: behind) ∧
      (v.isWord "VALUES" = true ∨ v.isWord "DEFAULT" = true) := by
  simp only [Token.isWord, Bool.and_eq_true, beq_iff_eq] at isInsert
  have reads : readStatement sql (s :: i :: n :: o :: us) = readInsert sql (i :: n :: o :: us) := by
    simp [readStatement, isInsert]
  rw [reads, readInsert] at read
  obtain ⟨_, into, read⟩ := bind_eq_ok read
  obtain rfl := Except.ok.inj ((expectWord_cons isInto _).symm.trans into)
  obtain ⟨⟨table, _⟩, named, read⟩ := bind_eq_ok read
  obtain ⟨rfl, rfl⟩ := Prod.mk.inj (Except.ok.inj ((readName_cons isName _).symm.trans named))
  simp only [skipSymbol?_cons opens] at read
  obtain ⟨⟨names, left⟩, listed, read⟩ := bind_eq_ok read
  obtain ⟨⟨found, behind⟩, same, read⟩ := bind_eq_ok read
  obtain ⟨rfl, rfl⟩ := Prod.mk.inj (Except.ok.inj same)
  dsimp only at read
  cases isDefault : skipWord? "DEFAULT" left with
  | some more =>
    rw [isDefault] at read
    obtain ⟨_, -, read⟩ := bind_eq_ok read
    obtain ⟨⟨values, _⟩, -, read⟩ := bind_eq_ok read
    obtain ⟨_, -, read⟩ := bind_eq_ok read
    obtain ⟨same, -⟩ := Prod.mk.inj (Except.ok.inj read)
    obtain ⟨-, rfl, -, -⟩ := Sql.Statement.insert.inj same
    obtain ⟨v, rfl, isWord⟩ := of_skipWord? isDefault
    exact ⟨names, v, more, rfl, listed, .inr isWord⟩
  | none =>
    rw [isDefault] at read
    obtain ⟨more, values, read⟩ := bind_eq_ok read
    obtain ⟨_, -, read⟩ := bind_eq_ok read
    obtain ⟨_, -, read⟩ := bind_eq_ok read
    obtain ⟨_, -, read⟩ := bind_eq_ok read
    obtain ⟨same, -⟩ := Prod.mk.inj (Except.ok.inj read)
    obtain ⟨-, rfl, -, -⟩ := Sql.Statement.insert.inj same
    obtain ⟨v, rfl, isWord⟩ := of_expectWord values
    exact ⟨names, v, more, rfl, listed, .inl isWord⟩

/-- The tokens of an insertion, whatever the names of its columns are. -/
theorem lexemes_insertion (named : isIdentifier table = true) (names : List String) :
    lexemes (insertionText table names).toList = word "INSERT" :: word "INTO" :: backquoted table ::
      (.symbol, ['(']) :: lexemes (listed names (')' :: ' ' :: 'V' :: insertionEnding names)) := by
  have opening := (spells_name "INSERT" (by decide)).blank ((spells_name "INTO" (by decide)).blank
    (spells_backquoted named))
  rw [insertionText_toList]
  generalize listed names (')' :: ' ' :: 'V' :: insertionEnding names) = behind
  have blank : Breaks (' ' :: '(' :: behind) := show ' ' ∈ breakers by decide
  obtain ⟨ts, written, cut⟩ := opening.scans 0 _ blank
  rw [lexemes, cut, Cuts.scanAt_blank _ (by simp), scanAt_symbol _ (by decide), List.map_append, written,
    List.map_cons, map_lexeme_scanAt]
  rfl

/-- An insertion is read as one that names its columns only if the name of each is a bare one. -/
theorem bare_of_parse_insertion (named : isIdentifier table = true) {other : String}
    {rows : NewRows} {returning : List Output}
    (read : parse (insertionText table names) = .ok parsed)
    (means : parsed.statement = some (.insert other (some names) rows returning)) :
    ∀ name ∈ names, IsBareName name := by
  have written : (Token.numbered (insertionText table names)).map lexeme =
      lexemes (insertionText table names).toList := by
    rw [Token.numbered, map_lexeme_numberSlots]
    rfl
  rw [lexemes_insertion named] at written
  -- only what the tokens are matters, and Lean should not cut the text itself
  generalize tokens : Token.numbered (insertionText table names) = ts at written
  obtain ⟨s, ts, rfl, isInsert, written⟩ := List.map_eq_cons_iff.1 written
  obtain ⟨i, ts, rfl, isInto, written⟩ := List.map_eq_cons_iff.1 written
  obtain ⟨n, ts, rfl, isTable, written⟩ := List.map_eq_cons_iff.1 written
  obtain ⟨o, ts, rfl, opens, written⟩ := List.map_eq_cons_iff.1 written
  rw [parse_eq tokens (isSymbol_of_word isInsert ";")] at read
  obtain ⟨rest, done⟩ : ∃ rest, readStatement (insertionText table names).toList
      (s :: i :: n :: o :: ts) = .ok (.insert other (some names) rows returning, rest) := by
    split at read
    · cases read
    · next statement rest reads =>
      have own : parsed.statement = some statement := by
        split at read
        · rw [← Except.ok.inj read]
        · split at read
          · rw [← Except.ok.inj read]
          · cases read
      rw [means] at own
      exact ⟨rest, Option.some.inj own ▸ reads⟩
  obtain ⟨found, v, behind, same, listed, isWord⟩ := of_readStatement_insert
    (isWord_keyword isInsert (by decide)) (isWord_keyword isInto (by decide))
    (isName_of_backquoted isTable) (isSymbol_of_symbol opens "(") done
  obtain rfl := Option.some.inj same
  have lists := lists_of_readNames listed
  rw [written, List.map_cons] at lists
  obtain ⟨d, known, first⟩ : ∃ d ∈ v.source, upperChar d = 'V' ∨ upperChar d = 'D' := by
    rcases isWord with isValues | isDefault
    · obtain ⟨d, known, first⟩ := exists_of_isWord isValues rfl
      exact ⟨d, known, .inl first⟩
    · obtain ⟨d, known, first⟩ := exists_of_isWord isDefault rfl
      exact ⟨d, known, .inr first⟩
  exact (of_lists List.suffix_rfl lists known (not_mem_insertionEnding first)).2

/-- A text is one statement, which inserts rows into a table and names some columns. -/
def InsertsInto (text table : String) (names : List String) : Prop :=
  ∃ columns rows count, columns.getD [] = names ∧
    parse text = .ok ⟨some (.insert table columns rows []), count, text, []⟩

/-- The statement of an insertion names its columns exactly if their names are bare ones, and there are
no more of them than a statement may have parameters. -/
theorem insertsInto_iff (named : isIdentifier table = true) (pairs : List (String × Value)) :
    InsertsInto (insertStatement table pairs).text table (pairs.map Prod.fst) ↔
      pairs.length ≤ 32766 ∧ ∀ name ∈ pairs.map Prod.fst, IsBareName name := by
  by_cases present : pairs = []
  · subst present
    have text : (insertStatement table []).text = defaultsText table := rfl
    rw [text]
    exact ⟨fun _ => ⟨Nat.zero_le _, nofun⟩, fun _ => ⟨none, .defaults, 0, rfl, parse_defaults named⟩⟩
  · have width : (pairs.map Prod.fst).length = pairs.length := List.length_map _
    rw [insertStatement_eq present, ← width]
    have present : pairs.map Prod.fst ≠ [] := mt List.map_eq_nil_iff.1 present
    generalize pairs.map Prod.fst = names at present
    constructor
    · rintro ⟨columns, rows, count, same, read⟩
      cases columns with
      | none => exact absurd same.symm present
      | some columns =>
        obtain rfl : columns = names := same
        have bare := bare_of_parse_insertion named read rfl
        exact ⟨(of_parse_insertion named present bare read).1, bare⟩
    · rintro ⟨few, bare⟩
      exact ⟨some names, _, _, rfl, parse_insertion named present bare few⟩

end Reading

section Running

variable {session : Session} {table : String} {t : Sql.Table} {values : Entries Value}

/-- Columns that are all given are all named, in their order. -/
theorem insertPairs_of_given {columns : List ColumnInfo}
    (given : ∀ column ∈ columns, (values.get? column.name).isSome = true) :
    ∃ pairs, insertPairs table values columns = .ok pairs ∧
      pairs.map Prod.fst = columns.map ColumnInfo.name := by
  have none : (columns.find? fun column =>
      column.isRequired && (values.get? column.name).isNone) = none :=
    List.find?_eq_none.2 fun column mem => by
      simp [Option.isSome_iff_ne_none.1 (given column mem)]
  refine ⟨givenPairs values columns, ?_, ?_⟩
  · rw [insertPairs_eq, none]
  · rw [names_givenPairs, List.filter_eq_self.2 given]

/-- A statement that is read and whose parameters are bound is refused only where it means nothing. -/
theorem prepare_of_ready {store : Store} {text : String} {parameters : List Value}
    {means : Sql.Statement} {n : Nat} {cells : List Cell} {fault : StorageFault}
    (read : parse text = .ok ⟨some means, n, text, []⟩) (bound : bindValues n parameters = .ok cells)
    (failed : ready store ⟨text, parameters⟩ = .error fault) :
    ∃ f, store.prepare text means = .error f ∧ fault = .statement (f.seenIn text) := by
  cases prepared : store.prepare text means with
  | error f =>
    simp only [ready, Store.ready, read, prepared] at failed
    exact ⟨f, rfl, (Except.error.inj failed).symm⟩
  | ok action =>
    simp only [ready, Store.ready, read, prepared, bound, bind, Except.bind] at failed
    cases failed

/-- What is refused after a check that may be left out is refused by the check. -/
theorem of_checked_error {α : Type} {a : α} {enforcing : Bool} {check : Except Fault Unit} {f : Fault}
    (failed : ((if enforcing then check else pure ()) >>= fun _ => Except.ok a) = .error f) :
    check = .error f := by
  cases enforcing with
  | false => cases failed
  | true =>
    cases check with
    | error g => exact congrArg Except.error (Except.error.inj failed)
    | ok _ => cases failed

/-- An insertion into columns of bare names means something, unless a reference of the table cannot be
looked up. -/
theorem of_ready_insertion {store : Store} {pairs : List (String × Value)} {fault : StorageFault}
    (named : isIdentifier table = true) (sound : store.database.Sound)
    (found : store.database.table? table = some t)
    (among : ∀ name ∈ pairs.map Prod.fst, name ∈ t.columns.map Column.name)
    (unlisted : Unlisted (pairs.map Prod.snd)) (few : pairs.length ≤ 32766)
    (bare : ∀ name ∈ pairs.map Prod.fst, IsBareName name)
    (failed : ready store (insertStatement table pairs) = .error fault) :
    ∃ f, store.database.checkOutgoing t t.foreignKeys = .error f ∧
      fault = .statement (f.seenIn (insertStatement table pairs).text) := by
  have apart := (sound.of_table? found).1.columns.apart
  have isTable := find?_of_table? found
  obtain ⟨cells, bound⟩ := bindCells_of_unlisted unlisted
  have binds : bindValues pairs.length (pairs.map Prod.snd) = .ok cells := by
    have width : (pairs.map Prod.snd).length = pairs.length := List.length_map _
    rw [bindValues, List.take_of_length_le (by omega), bound, width]
    simp [bind, Except.bind]
  by_cases present : pairs = []
  · subst present
    have text : insertStatement table [] = ⟨defaultsText table, []⟩ := rfl
    rw [text] at failed ⊢
    obtain ⟨f, prepared, same⟩ := prepare_of_ready (parse_defaults named) binds failed
    refine ⟨f, ?_, same⟩
    rw [Store.prepare, planInsert_defaults isTable, bind_assoc] at prepared
    exact of_checked_error prepared
  · have width : (pairs.map Prod.fst).length = pairs.length := List.length_map _
    have read := parse_insertion named (mt List.map_eq_nil_iff.1 present) bare (by omega)
    rw [insertionRead] at read
    rw [insertStatement_eq present] at failed ⊢
    rw [← width] at binds
    obtain ⟨f, prepared, same⟩ := prepare_of_ready read binds failed
    refine ⟨f, ?_, same⟩
    obtain ⟨targets, areTargets⟩ := insertTargets_of_columns apart among table
    have fits : checkWidth table (some (pairs.map Prod.fst).length) t.columns.length
        [(List.range' 1 (pairs.map Prod.fst).length).map Expr.parameter] = .ok () := by
      simp [checkWidth]
    have planned : store.database.planInsert store.enforcing table (some (pairs.map Prod.fst))
        (.values [(List.range' 1 (pairs.map Prod.fst).length).map .parameter]) [] =
          ((if store.enforcing then store.database.checkOutgoing t t.foreignKeys else pure ()) >>= fun _ =>
            .ok ⟨t.name, targets, [(List.range' 1 (pairs.map Prod.fst).length).map .parameter], []⟩) := by
      rw [planInsert_values isTable, areTargets, fits]
      rfl
    rw [Store.prepare, planned, bind_assoc] at prepared
    exact of_checked_error prepared

end Running

end Call

/-- What an insertion that is given a value for each column it may name is read as, and what it does.  It
names these columns exactly if their names are bare ones.  Then it is not refused before it runs, unless
a reference of the table cannot be looked up, and each value comes into the column that it is given
for. -/
theorem insertion_names_columns_iff {session : Session} {table : String} {t : Sql.Table}
    {info : TableInfo} {values : Entries Value} (reached : session.store.Reached)
    (found : session.store.database.table? table = some t)
    (described : session.store.database.describe table = .ok info)
    (given : ∀ column ∈ info.insertColumns,
      ∃ value, values.get? column.name = some value ∧ value.isList = false) :
    ∃ pairs, Call.insertPairs table values info.insertColumns = .ok pairs ∧
      pairs.map Prod.fst = info.insertColumns.map ColumnInfo.name ∧
      (Call.InsertsInto (Call.insertStatement table pairs).text table (pairs.map Prod.fst) ↔
        pairs.length ≤ 32766 ∧ ∀ name ∈ pairs.map Prod.fst, IsBareName name) ∧
      (Call.InsertsInto (Call.insertStatement table pairs).text table (pairs.map Prod.fst) →
        (∀ fault, Call.ready session.store (Call.insertStatement table pairs) = .error fault →
          ∃ f, session.store.database.checkOutgoing t t.foreignKeys = .error f ∧
            fault = .statement (f.seenIn (Call.insertStatement table pairs).text)) ∧
        ∀ id after, (Call.insert table values).outcome session = (.ok id, after) →
          ∃ row, row.id = id ∧ (∀ other ∈ t.rows, other.id ≠ id) ∧
            after.store.database = session.store.database.withRow t row ∧
            ∀ i c, t.columns[i]? = some c → i ≠ t.identityPlace →
              ∃ value, values.get? c.name = some value ∧
                row.cells[i]? = some (Cell.store c.affinity value.stored)) := by
  have sound := reached.sound.database
  have apart := (sound.of_table? found).1.columns.apart
  obtain ⟨named, columns⟩ := Call.columns_of_describe found described
  have every : ∀ column ∈ info.insertColumns, (values.get? column.name).isSome = true := by
    intro column mem
    obtain ⟨value, own, -⟩ := given column mem
    rw [own]
    rfl
  obtain ⟨pairs, listed, names⟩ : ∃ pairs, Call.insertPairs table values info.insertColumns = .ok pairs ∧
      pairs.map Prod.fst = info.insertColumns.map ColumnInfo.name := Call.insertPairs_of_given every
  have each := (Call.of_insertPairs listed).2
  have readsSo := Call.insertsInto_iff named pairs
  refine ⟨pairs, listed, names, readsSo, fun reads => ?_⟩
  obtain ⟨few, bare⟩ := readsSo.1 reads
  refine ⟨fun fault failed => ?_, fun id after done => ?_⟩
  · refine Call.of_ready_insertion named sound found (fun name mem => ?_) (fun value mem => ?_) few bare
      failed
    · rw [names] at mem
      exact (Call.insertColumns_sublist columns).subset mem
    · obtain ⟨pair, own, rfl⟩ := List.mem_map.1 mem
      have among : pair.1 ∈ info.insertColumns.map ColumnInfo.name := names ▸ List.mem_map_of_mem own
      obtain ⟨column, isColumn, same⟩ := List.mem_map.1 among
      obtain ⟨value, isGiven, unlisted⟩ := given column isColumn
      rw [same, each pair own] at isGiven
      rwa [Option.some.inj isGiven]
  · have bareGiven : Call.BareGiven session.store.database table values := by
      intro info' described' name mem _
      obtain rfl := Except.ok.inj (described.symm.trans described')
      exact bare name (names ▸ mem)
    obtain ⟨row, parameters, isId, fresh, -, stored, keeps⟩ :=
      Call.keeps_of_insert sound found bareGiven done
    refine ⟨row, isId, fresh, stored, fun i c column other => ?_⟩
    have idless : t.idColumn ≠ some i := by
      intro shows
      have place := reached.showsIdentity found i shows
      exact other (by rw [Table.identityPlace, place]; rfl)
    have kept := keeps i c column idless
    rw [if_neg other, Table.Keeps] at kept
    obtain ⟨value, isGiven, -⟩ := given _ (Call.mem_insertColumns apart columns column other)
    have isGiven : values.get? c.name = some value := isGiven
    rw [isGiven] at kept
    exact ⟨value, isGiven, kept⟩


section Berths

/-- The declaration of a table of ships with a column whose name has a blank. -/
def berthsText : String :=
  "CREATE TABLE ships (ships_id INTEGER PRIMARY KEY, \"home port\" TEXT)"

/-- A table of ships with their home ports. -/
def berthsTable : Sql.Table :=
  ⟨"ships", [⟨"ships_id", "INTEGER", .integer, .binary, false, 1, none⟩,
    ⟨"home port", "TEXT", .text, .binary, false, 0, none⟩], some 0, false, [], [], [], [], berthsText⟩

/-- A store of no ships yet. -/
def unberthed : Session :=
  ⟨.opened ⟨[.table berthsTable]⟩, []⟩

/-- There can be such a store. -/
theorem reached_unberthed : unberthed.store.Reached := by
  have declares : (Store.opened .empty).prepare berthsText (.createTable ⟨"ships", "ships", 13⟩ false
      [⟨"ships_id", "INTEGER", [.primaryKey false false]⟩, ⟨"home port", "TEXT", []⟩] []) =
        .ok (.become ⟨[.table berthsTable]⟩) := rfl
  have declared : (Store.opened .empty).run [] (.become ⟨[.table berthsTable]⟩) =
      .ok (.none, unberthed.store) := rfl
  exact .ran .opened declares declared

/-- A ship is given its home port, and the statement does not name the column. -/
theorem insertion_names_columns_port :
    ∃ pairs, pairs.map Prod.fst = ["home port"] ∧
      ¬ Call.InsertsInto (Call.insertStatement "ships" pairs).text "ships" ["home port"] := by
  have described : unberthed.store.database.describe "ships" =
      .ok ⟨"ships", ⟨"ships_id", "INTEGER", false, true, none⟩, [⟨"home port", "TEXT", false, false, none⟩]⟩ :=
    rfl
  have given : ∀ column ∈ [ColumnInfo.mk "home port" "TEXT" false false none],
      ∃ value, (Entries.ofList [("home port", Value.text "Vulcan")]).get? column.name = some value ∧
        value.isList = false := by
    intro column mem
    rw [List.mem_singleton.mp mem]
    exact ⟨.text "Vulcan", rfl, rfl⟩
  obtain ⟨pairs, -, names, readsSo, -⟩ := insertion_names_columns_iff reached_unberthed
    (show unberthed.store.database.table? "ships" = some berthsTable from rfl) described given
  have names : pairs.map Prod.fst = ["home port"] := names
  rw [names] at readsSo
  exact ⟨pairs, names, fun reads => absurd ((readsSo.mp reads).2 _ List.mem_cons_self) (by decide)⟩

end Berths

end Registrar
