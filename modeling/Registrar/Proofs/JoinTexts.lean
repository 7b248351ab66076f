import Registrar.Proofs.Aliases
import Registrar.Proofs.Questions
import Registrar.Proofs.Sql.Partners

/-!
# Joined tables in the text of a question

How a question writes the tables that it joins, and what is read of it: each table under its name with a
running number, put beside the rows before it where both have the same in the column of the join.  No
keyword ends in a digit, so a joined table can always go under its name with a number.
-/

namespace Registrar

open Registrar.Sql Registrar.Sql.Token
open Registrar.Number
open Registrar.Text (isDigit)

/-- A joined table whose name and column can be named as they are. -/
structure JoinClause.IsPlain (clause : JoinClause) : Prop where
  table : IsPlainName clause.table
  column : IsPlainName clause.column

/-- The tokens of a joined table as a question writes it. -/
def JoinClause.lexemes (given : String) (clause : JoinClause) : List (TokenKind × List Char) :=
  [word "LEFT", word "JOIN", word clause.table, word "AS", word clause.alias, word "ON",
    word clause.alias, point, word clause.column, equals, word given, point, word clause.column]

/-- What a joined table is read as in a question about a table that is given under a name. -/
structure JoinClause.IsReadAs (given : String) (source : Source) (clause : JoinClause) : Prop where
  kind : source.kind = .left
  table : source.table = clause.table
  named : source.name = some clause.alias
  on : ∃ a b, source.on = some (.binary .eq (.column (some clause.alias) clause.column false a)
    (.column (some given) clause.column false b))
  unshared : source.shared = []

section Names

/-- A name that ends in a digit is no keyword. -/
theorem isReserved_of_endsInDigit {name : String} (ends : EndsInDigit name) :
    isReserved name = false := by
  obtain ⟨c, last, digit⟩ := ends
  have small : ¬ ('a' ≤ c ∧ c ≤ 'z') := by
    rw [isDigit, Bool.and_eq_true, decide_eq_true_eq, decide_eq_true_eq] at digit
    intro letter
    exact absurd (Char.le_trans letter.1 digit.2) (by decide)
  have kept : Text.upperChar c = c := if_neg small
  have plain : ∀ text ∈ reservedWords, text.toList.any isDigit = false := by decide
  rw [Bool.eq_false_iff]
  intro reserved
  have among : Text.upperAscii name ∈ reservedWords := by simpa [isReserved] using reserved
  have mem : c ∈ (Text.upperAscii name).toList := by
    rw [toList_upperAscii, ← kept]
    exact List.mem_map_of_mem (List.mem_of_getLast? last)
  exact Bool.false_ne_true ((plain _ among).symm.trans (List.any_eq_true.2 ⟨c, mem, digit⟩))

/-- A joined table of a plain name goes under a plain name. -/
theorem JoinClause.IsPlain.alias {clause : JoinClause} (plain : clause.IsPlain) :
    IsPlainName clause.alias := by
  refine ⟨Agrees.isIdentifier_append plain.table.1 ?_,
    isReserved_of_endsInDigit clause.endsInDigit_alias⟩
  rw [toList_intText, List.all_eq_true]
  intro c mem
  rw [isDigit_of_mem_natDigits mem, Bool.or_true]

end Names

section Spelling

variable {given : String} {clause : JoinClause}

/-- A column behind the name of its table is cut into both names and the point between them. -/
theorem spells_dotted {table column : String} (first : isIdentifier table = true)
    (second : isIdentifier column = true) :
    Spells (table.toList ++ '.' :: column.toList) [word table, point, word column] := by
  refine spells_pointed (spells_name table first).begins (fun start rest => ?_) second
  refine ⟨⟨.word, table.toList, start, 0⟩, rfl, ?_⟩
  unfold isIdentifier at first
  generalize table.toList = cs at first ⊢
  cases cs with
  | nil => cases first
  | cons c cs =>
    have present : c ≠ '\x00' := by
      rintro rfl
      rw [isIdentifierChars, Bool.and_eq_true] at first
      exact absurd first.1 (by decide)
    have unquoted : ∀ tail, '.' :: rest ≠ '\x27' :: tail := by
      intro tail same
      exact absurd (List.cons.inj same).1 (by decide)
    have shaped := shape_identifier first (List.takeWhile_cons_of_neg (by decide)) unquoted
    exact scanAt_append start _ c cs ('.' :: rest) present shaped

/-- A joined table is cut into its tokens. -/
theorem spells_join (named : isIdentifier given = true) (plain : clause.IsPlain) :
    Spells (clause.text given).toList (clause.lexemes given) := by
  have ours := spells_dotted named plain.column.1
  have theirs := spells_dotted plain.alias.1 plain.column.1
  have spelled := (spells_name "LEFT" (by decide)).blank ((spells_name "JOIN" (by decide)).blank
    ((spells_name clause.table plain.table.1).blank ((spells_name "AS" (by decide)).blank
      ((spells_name clause.alias plain.alias.1).blank ((spells_name "ON" (by decide)).blank
        (theirs.blank (spells_equals.blank ours)))))))
  unfold JoinClause.text
  simpa [JoinClause.lexemes] using spelled

/-- Joined tables are cut into their tokens. -/
theorem spells_joins (named : isIdentifier given = true) {clauses : List JoinClause}
    (present : clauses ≠ []) (plain : ∀ clause ∈ clauses, clause.IsPlain) :
    Spells (" ".intercalate (clauses.map (JoinClause.text given))).toList
      (clauses.flatMap (JoinClause.lexemes given)) := by
  induction clauses with
  | nil => exact absurd rfl present
  | cons clause clauses ih =>
    obtain ⟨own, others⟩ := List.forall_mem_cons.1 plain
    cases clauses with
    | nil => simpa using spells_join named own
    | cons next clauses =>
      have spelled := (spells_join named own).blank (ih (List.cons_ne_nil _ _) others)
      simpa [String.intercalate_cons_cons] using spelled

/-- Texts that are appended one behind the other are appended together. -/
theorem Appends.append {text other : String} {ls ms : List (TokenKind × List Char)}
    (first : Appends text ls) (second : Appends other ms) : Appends (text ++ other) (ls ++ ms) := by
  rcases first with ⟨rfl, rfl⟩ | ⟨part, rfl, spelled⟩
  · simpa using second
  · refine .inr ⟨part ++ other, by rw [String.append_assoc], ?_⟩
    rw [String.toList_append]
    exact second.spells spelled

/-- The joined tables of a question, as it writes them behind its first table. -/
def Joins.appended (joins : Joins) : String :=
  if joins.isEmpty then "" else " " ++ joins.text

/-- Joined tables stand behind the first table of a question. -/
theorem appends_joins {joins : Joins} (named : isIdentifier joins.source = true)
    (plain : ∀ clause ∈ joins.clauses, clause.IsPlain) :
    Appends joins.appended (joins.clauses.flatMap (JoinClause.lexemes joins.source)) := by
  rw [Joins.appended, Joins.isEmpty]
  split
  · next none =>
    rw [List.isEmpty_iff.1 none]
    exact .inl ⟨rfl, rfl⟩
  · next some =>
    exact .inr ⟨joins.text, rfl, spells_joins named (by simpa using some) plain⟩

/-- Joined tables have no marks. -/
theorem unmarked_joins (given : String) (clauses : List JoinClause) :
    ∀ l ∈ clauses.flatMap (JoinClause.lexemes given), l.1 ≠ .parameter := by
  refine List.forall_mem_flatMap.2 fun clause _ => ?_
  simp [JoinClause.lexemes, word, point, equals]

end Spelling

section Reading

variable {given : String} {clause : JoinClause} {t : Token} {ts us rest : List Token} {d e : Expr}

/-- The sign of equality is spelled as such. -/
theorem spelling_of_equals (isEquals : t.lexeme = equals) : t.spelling = symbol "=" := by
  have isSign : t.lexeme = wordLexeme "=" := isEquals.trans (by decide)
  exact (spelling_of_lexeme isSign).trans (by decide)

/-- Two operands with the sign of equality between them are read as an equation. -/
theorem readWhole_equation (isEquals : t.lexeme = equals)
    (left : ∀ fuel, readOperand (fuel + 2) (ts ++ t :: (us ++ rest)) = .ok (d, t :: (us ++ rest)))
    (right : ∀ fuel, readOperand (fuel + 2) (us ++ rest) = .ok (e, rest)) (halts : Halts rest) :
    readWhole (ts ++ t :: (us ++ rest)) = .ok (.binary .eq d e, rest) := by
  have follows : t.follow? = some (.binary .eq 4) := follow?_of_symbol (spelling_of_equals isEquals)
  obtain ⟨n, fuel⟩ : ∃ n, exprFuel (ts ++ t :: (us ++ rest)) = n + 5 :=
    ⟨4 * (ts ++ t :: (us ++ rest)).length + 3, rfl⟩
  have second : readExpr (n + 3) (4 + 1) (us ++ rest) = .ok (e, rest) := by
    rw [readExpr, right]
    exact readFollows_of_stops (by omega) (halts.stops.mono (by omega))
  rw [readWhole, fuel, readExpr, left]
  show readFollows (n + 3 + 1) 0 d (t :: (us ++ rest)) = _
  rw [readFollows_binary follows (by omega), second]
  exact readFollows_of_stops (by omega) halts.stops

/-- No point stands before the sign of equality. -/
theorem skipSymbol?_equals (isEquals : t.lexeme = equals) : skipSymbol? "." (t :: rest) = none := by
  simp [skipSymbol?, isSymbol_of_symbol isEquals]

/-- What a question joins a table by is read as an equation of two columns. -/
theorem readWhole_on {table other column : String} (first : isReserved table = false)
    (second : isReserved other = false) (free : isReserved column = false)
    (written : ts.map lexeme =
      [word table, point, word column, equals, word other, point, word column])
    (halts : Halts rest) : ∃ a b, readWhole (ts ++ rest) =
      .ok (.binary .eq (.column (some table) column false a) (.column (some other) column false b),
        rest) := by
  obtain ⟨n, ts, rfl, isTable, written⟩ := List.map_eq_cons_iff.1 written
  obtain ⟨p, ts, rfl, isPoint, written⟩ := List.map_eq_cons_iff.1 written
  obtain ⟨c, ts, rfl, isColumn, written⟩ := List.map_eq_cons_iff.1 written
  obtain ⟨e, ts, rfl, isEquals, written⟩ := List.map_eq_cons_iff.1 written
  obtain ⟨m, ts, rfl, isOther, written⟩ := List.map_eq_cons_iff.1 written
  obtain ⟨q, ts, rfl, isPoint', written⟩ := List.map_eq_cons_iff.1 written
  obtain ⟨d, ts, rfl, isColumn', nothing⟩ := List.map_eq_cons_iff.1 written
  obtain rfl := List.map_eq_nil_iff.1 nothing
  have isName : n.isName = true := by rw [isName_of_word isTable, first]; rfl
  have isName' : m.isName = true := by rw [isName_of_word isOther, second]; rfl
  have noText : n.kind ≠ .string := by simp [(of_word isTable).1]
  have noText' : m.kind ≠ .string := by simp [(of_word isOther).1]
  have left (fuel : Nat) : readOperand (fuel + 2) ([n, p, c] ++ e :: ([m, q, d] ++ rest)) =
      .ok (.column (some table) column false n.start, e :: ([m, q, d] ++ rest)) := by
    rw [← unquoted_of_word isTable]
    exact readOperand_qualified isName noText isPoint isColumn free (skipSymbol?_equals isEquals) fuel
  have right (fuel : Nat) : readOperand (fuel + 2) ([m, q, d] ++ rest) =
      .ok (.column (some other) column false m.start, rest) := by
    rw [← unquoted_of_word isOther]
    exact readOperand_qualified isName' noText' isPoint' isColumn' free (halts.skipSymbol? (by decide))
      fuel
  exact ⟨n.start, m.start, readWhole_equation isEquals left right halts⟩

/-- A table that is joined is read under its name with a number, and by what it is joined. -/
theorem readTable_joined (plain : clause.IsPlain) (source : IsPlainName given)
    (written : ts.map lexeme = (clause.lexemes given).drop 2) (halts : Halts rest) :
    ∃ source, readTable .left (ts ++ rest) = .ok (source, rest) ∧ clause.IsReadAs given source := by
  obtain ⟨n, ts, rfl, isTable, written⟩ := List.map_eq_cons_iff.1 written
  obtain ⟨s, ts, rfl, isAs, written⟩ := List.map_eq_cons_iff.1 written
  obtain ⟨a, ts, rfl, isAlias, written⟩ := List.map_eq_cons_iff.1 written
  obtain ⟨o, ts, rfl, isOn, written⟩ := List.map_eq_cons_iff.1 written
  have isAs := Call.isWord_keyword isAs (by decide)
  have isOn := Call.isWord_keyword isOn (by decide)
  have isName : n.isName = true := by rw [isName_of_word isTable, plain.table.2]; rfl
  have named : a.isName = true := by rw [isName_of_word isAlias, plain.alias.2]; rfl
  obtain ⟨i, j, on⟩ := readWhole_on plain.alias.2 source.2 plain.column.2 written halts
  have schemaless : skipSymbol? "." (s :: a :: o :: (ts ++ rest)) = none := by
    simp [skipSymbol?, isSymbol_of_isWord isAs]
  have shown : readAlias (s :: a :: o :: (ts ++ rest)) = .ok (some a.unquoted, o :: (ts ++ rest)) := by
    simp [readAlias, skipWord?_cons isAs, readName_cons named, bind, Except.bind]
  have unshared : skipWord? "USING" rest = none := halts.skipWord? (by decide)
  refine ⟨⟨.left, n.unquoted, some a.unquoted, _, []⟩, ?_, ⟨rfl, unquoted_of_word isTable,
    congrArg some (unquoted_of_word isAlias), ⟨i, j, rfl⟩, rfl⟩⟩
  simp [readTable, readName_cons isName, schemaless, shown, skipWord?_cons isOn, on, unshared, bind,
    Except.bind, pure, Except.pure]

/-- The words of a join are read. -/
theorem readJoin_left {l j : Token} (isLeft : l.isWord "LEFT" = true) (isJoin : j.isWord "JOIN" = true)
    (rest : List Token) : readJoin (l :: j :: rest) = .ok (some .left, rest) := by
  have other (word : String) (differs : "LEFT" ≠ word) : l.isWord word = false := by
    rwa [isWord_iff_of_isWord isLeft, beq_eq_false_iff_ne]
  have noOuter : j.isWord "OUTER" = false := by
    rw [isWord_iff_of_isWord isJoin]
    decide
  simp [readJoin, skipSymbol?, skipWord?, isSymbol_of_isWord isLeft, other "JOIN" (by decide),
    other "INNER" (by decide), other "CROSS" (by decide), isLeft, noOuter, expectWord_cons isJoin, bind,
    Except.bind]

/-- Joined tables are read one behind the other. -/
theorem readJoined_clauses {clauses : List JoinClause} (plain : ∀ clause ∈ clauses, clause.IsPlain)
    (source : IsPlainName given) (written : ts.map lexeme = clauses.flatMap (JoinClause.lexemes given))
    (ends : EndsTable rest) {fuel : Nat} (enough : clauses.length < fuel) :
    Halts (ts ++ rest) ∧ ∃ sources, readJoined fuel (ts ++ rest) = .ok (sources, rest) ∧
      List.Forall₂ (fun clause source => clause.IsReadAs given source) clauses sources := by
  induction clauses generalizing ts fuel with
  | nil =>
    obtain rfl := List.map_eq_nil_iff.1 written
    obtain ⟨fuel, rfl⟩ := Nat.exists_eq_add_of_le' (show 1 ≤ fuel from enough)
    exact ⟨ends.halts, [], ends.readJoined fuel, .nil⟩
  | cons clause clauses ih =>
    obtain ⟨own, others⟩ := List.forall_mem_cons.1 plain
    rw [List.length_cons] at enough
    obtain ⟨fuel, rfl⟩ := Nat.exists_eq_add_of_le' (show 1 ≤ fuel by omega)
    rw [List.flatMap_cons] at written
    obtain ⟨l, ts, rfl, isLeft, written⟩ := List.map_eq_cons_iff.1 written
    obtain ⟨j, ts, rfl, isJoin, written⟩ := List.map_eq_cons_iff.1 written
    obtain ⟨ts, us, rfl, first, written⟩ := List.map_eq_append_iff.1 written
    have isLeft := Call.isWord_keyword isLeft (by decide)
    have isJoin := Call.isWord_keyword isJoin (by decide)
    obtain ⟨halts, sources, behind, readOthers⟩ := ih others written (show clauses.length < fuel by omega)
    obtain ⟨source, table, readOwn⟩ := readTable_joined own source first halts
    refine ⟨.word (by decide) isLeft, source :: sources, ?_, .cons readOwn readOthers⟩
    rw [List.cons_append, List.cons_append, List.append_assoc, readJoined, readJoin_left isLeft isJoin]
    simp [table, behind, bind, Except.bind]

end Reading

section Asking

variable {sql : List Char} {ts rest : List Token} {pairs : List (String × String)}

/-- Columns behind the names of their tables are read as what asks for them. -/
theorem readCommas_qualified (present : pairs ≠ [])
    (plain : ∀ pair ∈ pairs, isIdentifier pair.1 = true ∧ IsPlainName pair.2)
    (written : ts.map lexeme = [comma].intercalate (pairs.map qualifiedLexemes)) {u : Token}
    (isFrom : u.isWord "FROM" = true) :
    ∃ outputs, readCommas (readOutput sql) (ts ++ u :: rest) = .ok (outputs, u :: rest) ∧
      List.Forall₂ Output.Asks outputs pairs := by
  have ends : skipSymbol? "," (u :: rest) = none := by
    simp [skipSymbol?, isSymbol_of_isWord isFrom]
  refine readCommas_of_lexemes present written (.word (by decide) isFrom) ends ?_
  intro pair mem part own behind halts
  obtain ⟨valid, free⟩ := plain pair mem
  have names : NamesColumn (part.map lexeme) := own ▸ .qualified free.2
  obtain ⟨n, part, rfl, isTable, own⟩ := List.map_eq_cons_iff.1 own
  obtain ⟨p, part, rfl, isPoint, own⟩ := List.map_eq_cons_iff.1 own
  obtain ⟨c, part, rfl, isColumn, nothing⟩ := List.map_eq_cons_iff.1 own
  obtain rfl := List.map_eq_nil_iff.1 nothing
  have kind : n.kind = .bracketedName := congrArg Prod.fst isTable
  have read := readWhole_qualified (isName_of_backquoted isTable) (by simp [kind]) isPoint isColumn
    free.2 halts
  rw [unquoted_of_backquoted valid isTable] at read
  obtain ⟨text, value⟩ := readValueOutput_of_whole read halts
  exact ⟨_, (readOutput_eq names halts).trans value, n.start, text, rfl⟩

/-- The tokens of the comparison of a column with a mark, behind the tables of a question. -/
def equationLexemes (column : String) : List (TokenKind × List Char) :=
  [word "WHERE", word column, equals, mark]

/-- There is one mark in the comparison of a column with one. -/
theorem parameterCount_equation (column : String) : parameterCount (equationLexemes column) = 1 := by
  simp [equationLexemes, word, equals, mark]

/-- The mark in the comparison of a column with one has no name. -/
theorem unnamed_equation (column : String) : Unnamed (equationLexemes column) := by
  have marked : Unnamed [mark] := unnamed_markLexemes 1
  exact Call.unnamed_word "WHERE" (Call.unnamed_word column (marked.cons (.inl (by decide))))

/-- The comparison of a column with a mark stands behind the tables of a question. -/
theorem appends_equation {column : String} (valid : isIdentifier column = true) :
    Appends (" WHERE " ++ (column ++ " = ?")) (equationLexemes column) := by
  have spelled := (spells_name "WHERE" (by decide)).blank
    ((spells_name column valid).blank (spells_equals.blank spells_mark))
  refine .inr ⟨"WHERE " ++ (column ++ " = ?"), by rw [← String.append_assoc]; rfl, ?_⟩
  simpa [equationLexemes] using spelled

/-- The comparison of a column with a mark is read as the condition of a question. -/
theorem readCondition_equation {column : String} (free : isReserved column = false)
    (written : ts.map lexeme = equationLexemes column) (numbered : Numbered 0 ts) :
    EndsTable ts ∧ ∃ a, readCondition ts =
      .ok (some (.binary .eq (.column none column false a) (.parameter 1)), []) := by
  have inRange : InRange ts :=
    inRange_of_numbered numbered (written ▸ parameterCount_equation column) (by decide)
  obtain ⟨w, ts, rfl, isWhere, written, numbered⟩ := tokens_of_cons (by decide) written numbered
  obtain ⟨c, ts, rfl, isColumn, written, numbered⟩ :=
    tokens_of_cons (word_ne_parameter column) written numbered
  obtain ⟨e, ts, rfl, isEquals, written, numbered⟩ := tokens_of_cons (by decide) written numbered
  obtain ⟨m, ts, rfl, isMark, slot, nothing, -⟩ := tokens_of_mark written numbered
  obtain rfl := List.map_eq_nil_iff.1 nothing
  have isWhere := Call.isWord_keyword isWhere (by decide)
  obtain ⟨kind, text⟩ := of_word isColumn
  have known : ([e].map Token.spelling, .relation .eq) ∈ Comparator.table := by
    rw [List.map_singleton, spelling_of_equals isEquals]
    decide
  have reads : Reads .disjunction (c :: [e] ++ [m]) (.binary .eq (columnOf c) (.parameter m.slot)) :=
    .conjoined (.single (.relation ⟨kind, by rw [text]; exact free⟩ known isMark))
  have read : readWhole [c, e, m] = _ :=
    reads.readWhole (inRange_cons.1 inRange).2 (show Stops 0 [] from trivial)
  have column : columnOf c = .column none column false c.start := by
    rw [columnOf, unquoted_of_word isColumn, kind]
    rfl
  refine ⟨.word (by decide) isWhere, c.start, ?_⟩
  rw [readCondition_cons isWhere, read, column, slot]
  rfl

/-- A question that joins tables and compares one column with a mark is read as one. -/
theorem parse_joined {joins : Joins} {column : String} (source : IsPlainName joins.source)
    (plain : ∀ clause ∈ joins.clauses, clause.IsPlain) (present : pairs ≠ [])
    (columns : ∀ pair ∈ pairs, isIdentifier pair.1 = true ∧ IsPlainName pair.2)
    (compared : IsPlainName column) :
    let text := askingText (Columns.qualified pairs).written joins.source
      (joins.appended ++ (" WHERE " ++ (column ++ " = ?"))) []
    ∃ outputs sources a, List.Forall₂ Output.Asks outputs pairs ∧
      List.Forall₂ (fun clause source => clause.IsReadAs joins.source source) joins.clauses sources ∧
      parse text = .ok ⟨some (.select (plainQuery outputs (onlySource joins.source :: sources)
        (some (.binary .eq (.column none column false a) (.parameter 1))))), 1, text, []⟩ := by
  intro text
  have shows := shows_qualified present columns
  have appends := (appends_joins source.1 plain).append (appends_equation compared.1)
  have unmarked := unmarked_joins joins.source joins.clauses
  have unnamed := (unnamed_of_unmarked unmarked).append (unnamed_equation column)
  have valid : ∀ name ∈ ([] : List String), isIdentifier name = true := nofun
  obtain ⟨s, os, f, n, fs, us, tokens, isSelect, written, isFrom, isTable, filter, numbered, order⟩ :=
    tokens_of_asking source.1 shows appends unnamed valid
  obtain rfl := List.map_eq_nil_iff.1 order
  obtain ⟨js, ws, rfl, joined, equation⟩ := List.map_eq_append_iff.1 filter
  obtain ⟨-, numbered⟩ := numbered_append.1 numbered
  rw [joined, parameterCount_of_unmarked unmarked] at numbered
  obtain ⟨ends, a, condition⟩ := readCondition_equation compared.2 equation numbered
  have enough : joins.clauses.length < (js ++ ws).length + 1 := by
    have lengths := congrArg List.length joined
    simp only [List.length_map, List.length_flatMap, JoinClause.lexemes, List.length_cons,
      List.length_nil, List.map_const', List.sum_replicate_nat] at lengths
    rw [List.length_append]
    omega
  obtain ⟨halts, sources, tables, read⟩ := readJoined_clauses plain source joined ends enough
  have isName : n.isName = true := by rw [isName_of_word isTable, source.2]; rfl
  obtain ⟨outputs, shown, asks⟩ : ∃ outputs, readCommas (readOutput text.toList)
      (os ++ f :: n :: (js ++ ws)) = .ok (outputs, f :: n :: (js ++ ws)) ∧
        List.Forall₂ Output.Asks outputs pairs := readCommas_qualified present columns written isFrom
  have showsOutputs : ShowsOutputs text.toList os := shows.reads written
  have reads := readStatement_tables isSelect showsOutputs.begins shown isFrom isName halts tables
  rw [condition, unquoted_of_word isTable] at reads
  have reads : readStatement text.toList (Token.numbered text) =
      .ok (.select (plainQuery outputs (onlySource joins.source :: sources)
        (some (.binary .eq (.column none column false a) (.parameter 1)))), []) := by
    rw [tokens, List.append_nil, reads]
    rfl
  have parsed := parse_of_spells (spells_asking source.1 shows appends valid)
    (unnamed_asking shows unnamed) rfl reads
  have marks : parameterCount (askingLexemes ([comma].intercalate (pairs.map qualifiedLexemes))
      joins.source (joins.clauses.flatMap (JoinClause.lexemes joins.source) ++ equationLexemes column)
      []) = 1 := by
    rw [parameterCount_asking shows, parameterCount_append, parameterCount_of_unmarked unmarked,
      parameterCount_equation]
  refine ⟨outputs, sources, a, asks, read, ?_⟩
  rw [askingLexemes] at marks
  rw [marks] at parsed
  exact parsed

end Asking

end Registrar
