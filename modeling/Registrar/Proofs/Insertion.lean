import Registrar.Proofs.Filter.Stating
import Registrar.Proofs.Mutation
import Registrar.Proofs.Sql.BareNames
import Registrar.Proofs.Sql.Inserting
import Registrar.Proofs.Statements

/-!
# Insertions

What the statement of an insertion is read as, and what an insertion leaves in the store where it
succeeds: the table has one more row, of the id that is yielded, which has the values that are given to
its columns.  The columns are named as they are declared, so that their names have to be bare ones.
-/

namespace Registrar

open Registrar.Text Registrar.Sql Registrar.Sql.Token Registrar.Sql.Database

namespace Call

section Reading

variable {table : String} {pairs : List (String × Value)} {parsed : Parsed}

/-- What the tokens of an insertion are that gives values to columns. -/
def insertionLexemes (table : String) (names : List String) : List (TokenKind × List Char) :=
  word "INSERT" :: word "INTO" :: backquoted table :: (.symbol, ['(']) ::
    ([comma].intercalate (names.map fun name => [word name]) ++ (.symbol, [')']) :: word "VALUES" ::
      (.symbol, ['(']) :: (markLexemes names.length ++ [(.symbol, [')'])]))

/-- The text of an insertion that gives values to columns. -/
def insertionText (table : String) (names : List String) : String :=
  insertOpening table names ++ Clause.marks names.length ++ ")"

/-- The statement of an insertion that gives values to columns. -/
theorem insertStatement_eq {pairs : List (String × Value)} (present : pairs ≠ []) :
    insertStatement table pairs = ⟨insertionText table (pairs.map Prod.fst), pairs.map Prod.snd⟩ := by
  obtain ⟨pair, others, rfl⟩ := List.exists_cons_of_ne_nil present
  rw [insertionText, List.length_map]
  rfl

/-- An insertion that gives values to columns is cut into its tokens. -/
theorem spells_insertion (named : isIdentifier table = true) {names : List String}
    (present : names ≠ []) (bare : ∀ name ∈ names, IsBareName name) :
    Spells (insertionText table names).toList (insertionLexemes table names) := by
  have each : ∀ name ∈ names, Spells (id name).toList [word name] :=
    fun name mem => spells_word_chars (bare name mem).1
  have columns := (spells_commas id (fun name => [word name]) present each).enclosed
  obtain ⟨n, length⟩ := Nat.exists_eq_succ_of_ne_zero (mt List.length_eq_zero_iff.1 present)
  have marks := (spells_marks n).enclosed
  rw [Nat.succ_eq_add_one] at length
  rw [← length] at marks
  rw [List.map_id] at columns
  have spelled := (spells_name "INSERT" (by decide)).blank ((spells_name "INTO" (by decide)).blank
    ((spells_backquoted named).blank (columns.blank ((spells_name "VALUES" (by decide)).blank marks))))
  simpa [insertionText, insertOpening, insertionLexemes] using spelled

/-- The tokens of an insertion do not have names for parameters. -/
theorem unnamed_insertion (table : String) (names : List String) :
    Unnamed (insertionLexemes table names) := by
  have nothing : Unnamed [] := fun l mem => nomatch mem
  have symbol {c : Char} {ls : List (TokenKind × List Char)} (unnamed : Unnamed ls) :
      Unnamed ((.symbol, [c]) :: ls) := unnamed.cons (.inl (nofun))
  have columns : Unnamed ([comma].intercalate (names.map fun name => [word name])) :=
    unnamed_commas fun name _ => unnamed_word name nothing
  have marks := (unnamed_markLexemes names.length).append (symbol (c := ')') nothing)
  exact unnamed_word _ (unnamed_word _ ((symbol (columns.append
    (symbol (unnamed_word _ (symbol marks))))).cons (.inl (backquoted_ne_parameter table))))

/-- There are as many parameters as columns. -/
theorem parameterCount_insertion (table : String) (names : List String) :
    parameterCount (insertionLexemes table names) = names.length := by
  have columns : parameterCount ([comma].intercalate (names.map fun name => [word name])) =
      names.length * 0 := parameterCount_commas fun name _ => rfl
  have behind : parameterCount ((.symbol, [')']) :: word "VALUES" :: (.symbol, ['(']) ::
      (markLexemes names.length ++ [(.symbol, [')'])])) = names.length := by
    simp [word]
  have before (ls : List (TokenKind × List Char)) : parameterCount (word "INSERT" :: word "INTO" ::
      backquoted table :: (.symbol, ['(']) :: ls) = parameterCount ls := by
    simp [word, backquoted]
  rw [insertionLexemes, before, parameterCount_append, columns, behind, Nat.mul_zero, Nat.zero_add]

/-- The tokens of an insertion that gives values to columns of bare names, up to its marks. -/
theorem tokens_of_insertion (named : isIdentifier table = true) {names : List String}
    (present : names ≠ []) (bare : ∀ name ∈ names, IsBareName name) :
    ∃ s i n o us v p ms q, Token.numbered (insertionText table names) = s :: i :: n :: o :: us ∧
      s.isWord "INSERT" = true ∧ i.isWord "INTO" = true ∧ n.lexeme = backquoted table ∧
      o.isSymbol "(" = true ∧ readNames (o :: us) = .ok (names, v :: p :: (ms ++ [q])) ∧
      v.isWord "VALUES" = true ∧ p.isSymbol "(" = true ∧ q.isSymbol ")" = true ∧
      Marks ms ((List.range' 1 names.length).map .parameter) ∧
      (InRange ms ↔ names.length ≤ 32766) := by
  obtain ⟨written, numbered⟩ :=
    (spells_insertion named present bare).numbered (unnamed_insertion table names)
  rw [insertionLexemes] at written
  -- nothing more is needed of the tokens than what they are, and Lean should not cut the text itself
  generalize Token.numbered (insertionText table names) = tokens at written numbered ⊢
  obtain ⟨s, ts, rfl, isInsert, written, numbered⟩ := tokens_of_cons (by decide) written numbered
  obtain ⟨i, ts, rfl, isInto, written, numbered⟩ := tokens_of_cons (by decide) written numbered
  obtain ⟨n, ts, rfl, isTable, written, numbered⟩ :=
    tokens_of_cons (backquoted_ne_parameter table) written numbered
  obtain ⟨o, ts, rfl, opens, written, numbered⟩ := tokens_of_cons (by decide) written numbered
  obtain ⟨us, ts, rfl, ofNames, written⟩ := List.map_eq_append_iff.1 written
  have columns : parameterCount (us.map lexeme) = names.length * 0 := by
    rw [ofNames]
    exact parameterCount_commas fun name _ => rfl
  obtain ⟨-, numbered⟩ := numbered_append.1 numbered
  rw [columns, Nat.mul_zero, Nat.zero_add] at numbered
  obtain ⟨c, ts, rfl, closes, written, numbered⟩ := tokens_of_cons (by decide) written numbered
  obtain ⟨v, ts, rfl, isValues, written, numbered⟩ := tokens_of_cons (by decide) written numbered
  obtain ⟨p, ts, rfl, opensRow, written, numbered⟩ := tokens_of_cons (by decide) written numbered
  obtain ⟨ms, ts, rfl, ofMarks, written⟩ := List.map_eq_append_iff.1 written
  obtain ⟨q, ts, rfl, closesRow, none⟩ := List.map_eq_cons_iff.1 written
  obtain rfl := List.map_eq_nil_iff.1 none
  obtain ⟨k, length⟩ := Nat.exists_eq_succ_of_ne_zero (mt List.length_eq_zero_iff.1 present)
  rw [length] at ofMarks ⊢
  have counted := (numbered_append.1 numbered).1
  have range : InRange ms ↔ k.succ ≤ 32766 := by
    rw [inRange_iff counted, ofMarks, parameterCount_markLexemes]
    omega
  exact ⟨s, i, n, o, _, v, p, ms, q, rfl, isWord_keyword isInsert (by decide),
    isWord_keyword isInto (by decide), isTable, isSymbol_of_symbol opens "(",
    readNames_of_lexemes present (fun name mem => (bare name mem).2) (isSymbol_of_symbol opens "(")
      ofNames (isSymbol_of_symbol closes ")"),
    isWord_keyword isValues (by decide), isSymbol_of_symbol opensRow "(",
    isSymbol_of_symbol closesRow ")", marks_of_lexemes k ofMarks counted, range⟩

/-- An insertion that gives values to columns of bare names, as it is read. -/
def insertionRead (table : String) (names : List String) : Parsed :=
  ⟨some (.insert table (some names) (.values [(List.range' 1 names.length).map .parameter]) []),
    names.length, insertionText table names, []⟩

/-- An insertion that gives values to columns of bare names is read as such if there are no more of
them than a statement may have parameters, and else not at all. -/
theorem readStatement_insertion (named : isIdentifier table = true) {names : List String}
    (present : names ≠ []) (bare : ∀ name ∈ names, IsBareName name) :
    let reading := readStatement (insertionText table names).toList
      (Token.numbered (insertionText table names))
    if names.length ≤ 32766 then
      reading = .ok (.insert table (some names)
        (.values [(List.range' 1 names.length).map .parameter]) [], [])
    else ∃ stop, reading = .error stop := by
  obtain ⟨s, i, n, o, us, v, p, ms, q, tokens, isInsert, isInto, isTable, opens, listed, isValues,
    opensRow, closesRow, marks, range⟩ := tokens_of_insertion named present bare
  have whole (sql : List Char) : readStatement sql (s :: i :: n :: o :: us) =
      (readCommas readRow (p :: (ms ++ [q])) >>= fun r => readReturning sql r.2 >>= fun returning =>
        .ok (.insert n.unquoted (some names) (.values r.1) returning.1, returning.2)) :=
    readStatement_insert isInsert isInto (isName_of_backquoted isTable) opens listed isValues
  dsimp only
  rw [tokens, whole, readCommas_row]
  split
  · next few =>
    rw [readRow_marks opensRow marks (range.2 few) closesRow, unquoted_of_backquoted named isTable]
    rfl
  · next many =>
    obtain ⟨stop, failed⟩ := readRow_beyond opensRow marks (mt range.1 many) [q]
    exact ⟨stop, by rw [failed]; rfl⟩

/-- An insertion that gives values to columns of bare names is read as such. -/
theorem parse_insertion (named : isIdentifier table = true) {names : List String}
    (present : names ≠ []) (bare : ∀ name ∈ names, IsBareName name) (few : names.length ≤ 32766) :
    parse (insertionText table names) = .ok (insertionRead table names) := by
  have reads := readStatement_insertion named present bare
  dsimp only at reads
  rw [if_pos few] at reads
  have parsed := parse_of_spells (spells_insertion named present bare)
    (unnamed_insertion table names) rfl reads
  have count := parameterCount_insertion table names
  rw [insertionLexemes] at count
  rw [parsed, count, insertionRead]

/-- An insertion that gives values to columns of bare names is read as such, if it is read. -/
theorem of_parse_insertion (named : isIdentifier table = true) {names : List String}
    (present : names ≠ []) (bare : ∀ name ∈ names, IsBareName name)
    (read : parse (insertionText table names) = .ok parsed) :
    names.length ≤ 32766 ∧ parsed = insertionRead table names := by
  have reads := readStatement_insertion named present bare
  dsimp only at reads
  split at reads
  · next few => exact ⟨few, Except.ok.inj (read.symm.trans (parse_insertion named present bare few))⟩
  · obtain ⟨result, done⟩ := readStatement_of_parse (spells_insertion named present bare)
      (unnamed_insertion table names) rfl read
    obtain ⟨stop, failed⟩ := reads
    rw [failed] at done
    cases done

/-- The text of an insertion of defaults. -/
def defaultsText (table : String) : String :=
  "INSERT INTO `" ++ table ++ "` DEFAULT VALUES"

/-- An insertion of defaults is read as such. -/
theorem parse_defaults (named : isIdentifier table = true) :
    parse (defaultsText table) = .ok ⟨some (.insert table none .defaults []), 0, defaultsText table, []⟩ := by
  have spells : Spells (defaultsText table).toList [word "INSERT", word "INTO", backquoted table,
      word "DEFAULT", word "VALUES"] := by
    have spelled := (spells_name "INSERT" (by decide)).blank ((spells_name "INTO" (by decide)).blank
      ((spells_backquoted named).blank ((spells_name "DEFAULT" (by decide)).blank
        (spells_name "VALUES" (by decide)))))
    simpa [defaultsText] using spelled
  have unnamed : Unnamed [word "INSERT", word "INTO", backquoted table, word "DEFAULT",
      word "VALUES"] := by
    simp [Unnamed, word, backquoted]
  obtain ⟨written, numbered⟩ := spells.numbered unnamed
  have statement : readStatement (defaultsText table).toList (Token.numbered (defaultsText table)) =
      .ok (.insert table none .defaults [], []) := by
    generalize Token.numbered (defaultsText table) = tokens at written numbered ⊢
    obtain ⟨s, ts, rfl, isInsert, written, numbered⟩ := tokens_of_cons (by decide) written numbered
    obtain ⟨i, ts, rfl, isInto, written, numbered⟩ := tokens_of_cons (by decide) written numbered
    obtain ⟨n, ts, rfl, isTable, written, numbered⟩ :=
      tokens_of_cons (backquoted_ne_parameter table) written numbered
    obtain ⟨d, ts, rfl, isDefault, written, numbered⟩ := tokens_of_cons (by decide) written numbered
    obtain ⟨v, ts, rfl, isValues, written, -⟩ := tokens_of_cons (by decide) written numbered
    obtain rfl := List.map_eq_nil_iff.1 written
    rw [readStatement_defaults (isWord_keyword isInsert (by decide)) (isWord_keyword isInto (by decide))
      (isName_of_backquoted isTable) (isWord_keyword isDefault (by decide))
      (isWord_keyword isValues (by decide)), unquoted_of_backquoted named isTable]
  exact parse_of_spells spells unnamed rfl statement

end Reading

section Running

variable {store after : Store} {table : String} {t : Sql.Table} {pairs : List (String × Value)}
  {answer : Answer}

/-- The cells that the columns of an insertion are given. -/
def storedPairs (pairs : List (String × Value)) : List (String × Cell) :=
  pairs.map fun pair => (pair.1, pair.2.stored)

/-- What the statement of an insertion carries out. -/
theorem of_runOn_insertion (named : isIdentifier table = true)
    (bare : ∀ name ∈ pairs.map Prod.fst, IsBareName name)
    (found : store.database.find? table = some (.table t))
    (ran : runOn store (insertStatement table pairs) = .ok (answer, after)) :
    ∃ targets outcome, targets.map some = t.targets (pairs.map Prod.fst) ∧
      (Insertion.mk t.name targets [(List.range' 1 pairs.length).map .parameter] []).run store.database
        store.enforcing (store.env ((storedPairs pairs).map Prod.snd)) = .ok outcome ∧
      after = store.afterChange outcome := by
  have cells : (storedPairs pairs).map Prod.snd = (pairs.map Prod.snd).map Value.stored := by
    rw [storedPairs, List.map_map, List.map_map]
    rfl
  rw [cells]
  cases pairs with
  | nil =>
    have text : insertStatement table [] = ⟨defaultsText table, []⟩ := rfl
    rw [text] at ran
    obtain ⟨action, cells, means, bound, ran⟩ := of_runOn (parse_defaults named) ran
    obtain rfl : cells = [] := of_bindValues List.length_nil.symm bound
    obtain ⟨insertion, planned, means⟩ := bind_eq_ok means
    obtain rfl := Except.ok.inj means
    obtain rfl := of_planInsert_defaults found planned
    obtain ⟨outcome, ran, done⟩ := bind_eq_ok ran
    exact ⟨[], outcome, rfl, ran, (Prod.mk.inj (Except.ok.inj done)).2.symm⟩
  | cons pair others =>
    have text : insertStatement table (pair :: others) =
        ⟨insertionText table ((pair :: others).map Prod.fst), (pair :: others).map Prod.snd⟩ := by
      rw [insertionText, List.length_map]
      rfl
    rw [text] at ran
    obtain ⟨parsed, read⟩ := parse_of_runOn ran
    obtain ⟨-, rfl⟩ := of_parse_insertion named (List.cons_ne_nil _ _) bare read
    obtain ⟨action, cells, means, bound, ran⟩ := of_runOn read ran
    obtain rfl := of_bindValues (by simp) bound
    obtain ⟨insertion, planned, means⟩ := bind_eq_ok means
    obtain rfl := Except.ok.inj means
    obtain ⟨targets, named, rfl⟩ := of_planInsert_values found planned
    obtain ⟨outcome, ran, done⟩ := bind_eq_ok ran
    have width : (pair.1 :: others.map Prod.fst).length = (pair :: others).length := by simp
    rw [List.map_cons, width] at ran
    exact ⟨targets, outcome, named, ran, (Prod.mk.inj (Except.ok.inj done)).2.symm⟩

/-- The description of a table tells its columns. -/
theorem columns_of_describe {db : Database} {info : TableInfo} (found : db.table? table = some t)
    (described : db.describe table = .ok info) :
    isIdentifier table = true ∧ info.columns = t.columns.map ColumnInfo.ofColumn := by
  obtain ⟨name, valid, described⟩ := bind_eq_ok described
  obtain ⟨rfl, named⟩ := identifier_eq_ok_iff.1 valid
  have columns : db.columnInfo table = t.columns.map ColumnInfo.ofColumn := by
    rw [Database.columnInfo, find?_of_table? found]
  rw [columns] at described
  refine ⟨named, ?_⟩
  cases own : t.columns.map ColumnInfo.ofColumn with
  | nil =>
    rw [own] at described
    cases described
  | cons first others =>
    rw [own] at described
    rw [← Except.ok.inj described]
    rfl

/-- The columns that an insertion may give are some of the table's, in their order. -/
theorem insertColumns_sublist {info : TableInfo}
    (columns : info.columns = t.columns.map ColumnInfo.ofColumn) :
    (info.insertColumns.map ColumnInfo.name).Sublist (t.columns.map Column.name) := by
  have names : info.columns.map ColumnInfo.name = t.columns.map Column.name := by
    rw [columns, List.map_map]
    rfl
  rw [← names]
  exact List.filter_sublist.map ColumnInfo.name

/-- The columns that are given values, without the one that identifies a row, have bare names. -/
def BareGiven (db : Database) (table : String) (values : Entries Value) : Prop :=
  ∀ info, db.describe table = .ok info → ∀ name ∈ info.insertColumns.map ColumnInfo.name,
    (values.get? name).isSome = true → IsBareName name

/-- Plain names of columns are bare ones. -/
theorem bareGiven_of_plain {db : Database} {values : Entries Value} (found : db.table? table = some t)
    (plain : ∀ c ∈ t.columns, (values.get? c.name).isSome = true → IsPlainName c.name) :
    BareGiven db table values := by
  intro info described name mem given
  obtain ⟨-, columns⟩ := columns_of_describe found described
  obtain ⟨c, here, rfl⟩ := List.mem_map.1 ((insertColumns_sublist columns).subset mem)
  exact (plain c here given).bare

/-- An insertion that succeeds adds a row of a new id, made of the values that the columns are given
and of defaults. -/
theorem of_insert {session after : Session} {values : Entries Value} {id : Int64}
    (sound : session.store.database.Sound) (found : session.store.database.table? table = some t)
    (bare : BareGiven session.store.database table values)
    (done : (insert table values).outcome session = (.ok id, after)) :
    ∃ info pairs row, session.store.database.describe table = .ok info ∧
      insertPairs table values info.insertColumns = .ok pairs ∧
      t.Receives (session.store.env ((storedPairs pairs).map Prod.snd)) (storedPairs pairs) row ∧
      row.id = id ∧ (∀ other ∈ t.rows, other.id ≠ id) ∧
      after.store.database = session.store.database.withRow t row := by
  obtain ⟨_, _, isStore, done⟩ := of_outcome_bind done
  obtain ⟨same, rfl⟩ := Prod.mk.inj ((outcome_store session).symm.trans isStore)
  obtain rfl := Except.ok.inj same
  obtain ⟨info, _, lifted, done⟩ := of_outcome_bind done
  rw [outcome_lift] at lifted
  obtain ⟨described, rfl⟩ := Prod.mk.inj lifted
  obtain ⟨pairs, _, lifted, done⟩ := of_outcome_bind done
  rw [outcome_lift] at lifted
  obtain ⟨given, rfl⟩ := Prod.mk.inj lifted
  obtain ⟨_, later, changed, done⟩ := of_outcome_bind done
  obtain ⟨lastId, rfl⟩ : later.store.lastId = id ∧ later = after := by
    obtain ⟨first, second⟩ := Prod.mk.inj done
    exact ⟨Except.ok.inj first, second⟩
  obtain ⟨n, counted⟩ : ∃ n, (change (insertStatement table pairs)).outcome session = (.ok n, later) := by
    rw [outcome_discard] at changed
    obtain ⟨result, rfl⟩ := Prod.mk.inj changed
    cases counts : ((change (insertStatement table pairs)).outcome session).1 with
    | error f =>
      rw [counts] at result
      cases result
    | ok n => exact ⟨n, Prod.ext counts rfl⟩
  obtain ⟨answer, ran, -⟩ := of_change (changesRows_insertStatement table pairs) counted
  obtain ⟨named, columns⟩ := columns_of_describe found described
  obtain ⟨sublist, each⟩ := of_insertPairs given
  have among : (pairs.map Prod.fst).Sublist (t.columns.map Column.name) :=
    sublist.trans (insertColumns_sublist columns)
  have valid : ∀ name ∈ pairs.map Prod.fst, IsBareName name := by
    intro name mem
    obtain ⟨pair, own, rfl⟩ := List.mem_map.1 mem
    exact bare info described pair.1 (sublist.subset mem) (by rw [each pair own]; rfl)
  obtain ⟨targets, outcome, means, ran, stored⟩ :=
    of_runOn_insertion named valid (find?_of_table? found) ran
  have named := name_of_table? found
  have own : session.store.database.table? t.name = some t := by rw [table?_congr named, found]
  obtain ⟨row, inserted, database, last⟩ := of_insertion_run own ran
  obtain ⟨cells, new, evaluated, collected, -, isRow, kept, -⟩ := insertOne_cases inserted
  have names : (storedPairs pairs).map Prod.fst = pairs.map Prod.fst := by
    rw [storedPairs, List.map_map]
    rfl
  have isId : row.id = id := by
    rw [← lastId, stored, Store.afterChange, last]
    rfl
  have apart := (sound.of_table? found).1.columns.apart
  have values : cells = (storedPairs pairs).map Prod.snd := by
    have binds : (session.store.env ((storedPairs pairs).map Prod.snd)).Binds 0
        ((storedPairs pairs).map Prod.snd) := fun i cell at' => by rwa [Nat.zero_add]
    have width : ((storedPairs pairs).map Prod.snd).length = pairs.length := by simp [storedPairs]
    have range := binds.range
    rw [width] at range
    exact Except.ok.inj (evaluated.symm.trans (evalAll_parameters range))
  rw [← names] at means among
  subst values
  refine ⟨info, pairs, row, described, given, ?_, isId, ?_, ?_⟩
  · exact receives_of_newCells (sound.of_table? found).1.within means (nodup_targets apart among)
      collected isRow
  · rw [← isId]
    exact fresh_of_check kept
  · rw [stored, Store.afterChange, database]

end Running

end Call

end Registrar
