import Mathlib.Data.List.Forall2
import Registrar.Proofs.Sql.Closing
import Registrar.Proofs.Sql.Phrases

/-!
# Columns and tables of questions

A question that names columns is read up to the name of its table, which has to be no keyword; so is a
question for the number of rows.  Behind the name may stand a condition and the columns to sort by.
-/

namespace Registrar.Sql

open Registrar.Text Token

variable {t u n w : Token} {rest ts us : List Token} {sql : List Char}

section Lists

variable {α β : Type} {item : List Token → Except Stop (α × List Token)} {items : List β}
  {lexemes : β → List (TokenKind × List Char)} {R : α → β → Prop}

/-- Items with commas between them that are read one by one are read as a list, each as what it is
read as by itself. -/
theorem readCommas_of_lexemes (present : items ≠ [])
    (written : us.map lexeme = [comma].intercalate (items.map lexemes)) (halts : Halts rest)
    (ends : skipSymbol? "," rest = none)
    (each : ∀ b ∈ items, ∀ part, part.map lexeme = lexemes b → ∀ behind, Halts behind →
      ∃ a, item (part ++ behind) = .ok (a, behind) ∧ R a b) :
    ∃ as, readCommas item (us ++ rest) = .ok (as, rest) ∧ List.Forall₂ R as items := by
  have read : items.length ≤ us.length + 1 ∧ ∀ {fuel}, items.length ≤ fuel →
      ∃ as, readList item fuel (us ++ rest) = .ok (as, rest) ∧ List.Forall₂ R as items := by
    induction items generalizing us with
    | nil => exact absurd rfl present
    | cons b items ih =>
      cases items with
      | nil =>
        have own : us.map lexeme = lexemes b := by simpa using written
        refine ⟨by simp, fun {fuel} enough => ?_⟩
        obtain ⟨fuel, rfl⟩ := Nat.exists_eq_add_of_le' (show 1 ≤ fuel from enough)
        obtain ⟨a, read, related⟩ := each b List.mem_cons_self us own rest halts
        exact ⟨[a], by simp [readList, read, ends, bind, Except.bind], .cons related .nil⟩
      | cons c items =>
        have written : us.map lexeme =
            lexemes b ++ (comma :: [comma].intercalate ((c :: items).map lexemes)) := by
          rw [written, List.map_cons, List.map_cons, List.intercalate_cons_cons, List.append_assoc]
          rfl
        obtain ⟨first, us, rfl, own, written⟩ := List.map_eq_append_iff.1 written
        obtain ⟨between, us, rfl, isComma, written⟩ := List.map_eq_cons_iff.1 written
        have isComma : between.isSymbol "," = true := isSymbol_of_symbol isComma ","
        obtain ⟨most, others⟩ := ih (List.cons_ne_nil c items) written fun d mem =>
          each d (List.mem_cons_of_mem b mem)
        refine ⟨?_, fun {fuel} enough => ?_⟩
        · simp only [List.length_cons, List.length_append] at most ⊢
          omega
        · rw [List.length_cons] at enough
          obtain ⟨fuel, rfl⟩ := Nat.exists_eq_add_of_le' (show 1 ≤ fuel by omega)
          obtain ⟨a, read, related⟩ := each b List.mem_cons_self first own
            (between :: (us ++ rest)) (.comma isComma)
          obtain ⟨as, others, relatedOthers⟩ := others (show (c :: items).length ≤ fuel by omega)
          exact ⟨a :: as, by simp [readList, read, skipSymbol?_cons isComma, others, bind, Except.bind],
            .cons related relatedOthers⟩
  obtain ⟨most, read⟩ := read
  refine read ?_
  simp only [List.length_append]
  omega

end Lists

section Columns

/-- What the tokens of a column are that can be named: its name, alone or behind its table. -/
inductive NamesColumn : List (TokenKind × List Char) → Prop
  | bare {name : String} : isReserved name = false → NamesColumn [word name]
  | qualified {table name : String} : isReserved name = false →
      NamesColumn [backquoted table, point, word name]

/-- An operand that begins with a name goes on as what the name starts, unless it is a text or a
conversion. -/
theorem readOperand_name (isName : n.isName = true) (noText : n.kind ≠ .string)
    (fuel : Nat) (rest : List Token)
    (noCast : (n.isWord "CAST" && (skipSymbol? "(" rest).isSome) = false) :
    readOperand (fuel + 1) (n :: rest) = readNamed fuel n rest := by
  unfold Token.isName at isName
  cases kind : n.kind with
  | word =>
    have free : isReserved n.text = false := by simpa [kind] using isName
    have other (text : String) (reserved : text ∈ reservedWords) : n.isWord text = false := by
      rw [Bool.eq_false_iff]
      intro same
      simp only [Token.isWord, Bool.and_eq_true, beq_iff_eq] at same
      rw [isReserved, same.2] at free
      simp [reserved] at free
    simp [readOperand, kind, other "NOT" (by decide), other "NULL" (by decide),
      other "CASE" (by decide), noCast, free]
  | quotedName | bracketedName => simp [readOperand, kind]
  | string => exact absurd kind noText
  | _ => simp [kind] at isName

/-- A column does not begin with a keyword. -/
theorem NamesColumn.begins {column ls : List (TokenKind × List Char)} (names : NamesColumn column)
    (written : ts.map lexeme = column ++ ls) :
    ∃ t us, ts = t :: us ∧ ∀ word ∈ reservedWords, t.isWord word = false := by
  cases names with
  | bare free =>
    obtain ⟨t, us, rfl, isWord, -⟩ := List.map_eq_cons_iff.1 written
    refine ⟨t, us, rfl, fun word reserved => ?_⟩
    rw [isWord_of_word isWord, beq_eq_false_iff_ne]
    rintro rfl
    rw [isReserved] at free
    simp [reserved] at free
  | qualified _ =>
    obtain ⟨t, us, rfl, isTable, -⟩ := List.map_eq_cons_iff.1 written
    have kind : t.kind = .bracketedName := congrArg Prod.fst isTable
    exact ⟨t, us, rfl, fun word _ => isWord_of_kind (by simp [kind]) word⟩

section Qualified

variable {p c : Token} {name : String}

/-- A column behind the name of its table is an operand. -/
theorem readOperand_qualified (isName : n.isName = true) (noText : n.kind ≠ .string)
    (isPoint : p.lexeme = point) (isWord : c.lexeme = word name) (free : isReserved name = false)
    (noPoint : skipSymbol? "." rest = none) (fuel : Nat) :
    readOperand (fuel + 2) (n :: p :: c :: rest) =
      .ok (.column (some n.unquoted) name false n.start, rest) := by
  have isPoint (symbol : String) : p.isSymbol symbol = ("." == symbol) :=
    isSymbol_of_symbol isPoint symbol
  have isColumn : c.isName = true := by rw [isName_of_word isWord, free]; rfl
  have closed : skipSymbol? "(" (p :: c :: rest) = none := by simp [skipSymbol?, isPoint]
  have passed : skipSymbol? "." (p :: c :: rest) = some (c :: rest) :=
    skipSymbol?_cons (by rw [isPoint]; rfl) _
  rw [readOperand_name isName noText _ _ (by simp [closed])]
  simp [readNamed, closed, passed, readName_cons isColumn, noPoint, unquoted_of_word isWord, bind,
    Except.bind]

/-- A column behind the name of its table is read at the end of a part. -/
theorem readWhole_qualified (isName : n.isName = true) (noText : n.kind ≠ .string)
    (isPoint : p.lexeme = point) (isWord : c.lexeme = word name) (free : isReserved name = false)
    (halts : Halts rest) : readWhole (n :: p :: c :: rest) =
      .ok (.column (some n.unquoted) name false n.start, rest) := by
  have noPoint : skipSymbol? "." rest = none := halts.skipSymbol? (by decide)
  rw [readWhole, exprFuel, readExpr, readOperand_qualified isName noText isPoint isWord free noPoint]
  exact readFollows_of_stops (by omega) halts.stops

end Qualified

/-- A column is read as one at the end of a part. -/
theorem readWhole_column (names : NamesColumn (ts.map lexeme)) (halts : Halts rest) :
    ∃ e, readWhole (ts ++ rest) = .ok (e, rest) := by
  generalize written : ts.map lexeme = ls at names
  cases names with
  | bare free =>
    have noCall : skipSymbol? "(" rest = none := halts.skipSymbol? (by decide)
    have noPoint : skipSymbol? "." rest = none := halts.skipSymbol? (by decide)
    obtain ⟨n, ts, rfl, isWord, nothing⟩ := List.map_eq_cons_iff.1 written
    obtain rfl := List.map_eq_nil_iff.1 nothing
    have operand (fuel : Nat) : readOperand (fuel + 2) (n :: rest) = .ok (columnOf n, rest) := by
      rw [readOperand_name (by rw [isName_of_word isWord, free]; rfl) (by simp [(of_word isWord).1])
        _ _ (by simp [noCall])]
      simp [readNamed, noCall, noPoint]
    refine ⟨columnOf n, ?_⟩
    rw [readWhole, exprFuel, List.singleton_append, readExpr, operand]
    exact readFollows_of_stops (by omega) halts.stops
  | qualified free =>
    obtain ⟨n, ts, rfl, isTable, written⟩ := List.map_eq_cons_iff.1 written
    obtain ⟨p, ts, rfl, isPoint, written⟩ := List.map_eq_cons_iff.1 written
    obtain ⟨c, ts, rfl, isWord, nothing⟩ := List.map_eq_cons_iff.1 written
    obtain rfl := List.map_eq_nil_iff.1 nothing
    have kind : n.kind = .bracketedName := congrArg Prod.fst isTable
    exact ⟨_, readWhole_qualified (isName_of_backquoted isTable) (by simp [kind]) isPoint isWord free
      halts⟩

/-- What is read at the end of a part is shown without a name. -/
theorem readValueOutput_of_whole {e : Expr} (read : readWhole ts = .ok (e, rest))
    (halts : Halts rest) : ∃ text, readValueOutput sql ts = .ok (.value e none text, rest) :=
  ⟨between sql (nextPlace sql ts) (nextPlace sql rest), by
    simp [readValueOutput, read, halts.readAlias, bind, Except.bind]⟩

/-- A column is read as a value that is shown. -/
theorem readOutput_eq (names : NamesColumn (ts.map lexeme)) (halts : Halts rest) :
    readOutput sql (ts ++ rest) = readValueOutput sql (ts ++ rest) := by
  generalize written : ts.map lexeme = ls at names
  cases names with
  | bare free =>
    obtain ⟨n, ts, rfl, isWord, nothing⟩ := List.map_eq_cons_iff.1 written
    obtain rfl := List.map_eq_nil_iff.1 nothing
    have noStar := isSymbol_of_word isWord "*"
    have noPoint : skipSymbol? "." rest = none := halts.skipSymbol? (by decide)
    match rest, noPoint with
    | [], _ | [_], _ => simp [readOutput, noStar]
    | dot :: _ :: _, noPoint =>
      have noDot : dot.isSymbol "." = false := by simpa [skipSymbol?] using noPoint
      simp [readOutput, noStar, noDot]
  | qualified free =>
    obtain ⟨n, ts, rfl, isTable, written⟩ := List.map_eq_cons_iff.1 written
    obtain ⟨p, ts, rfl, isPoint, written⟩ := List.map_eq_cons_iff.1 written
    obtain ⟨c, ts, rfl, isWord, nothing⟩ := List.map_eq_cons_iff.1 written
    obtain rfl := List.map_eq_nil_iff.1 nothing
    have kind : n.kind = .bracketedName := congrArg Prod.fst isTable
    have noStar : n.isSymbol "*" = false := by simp [Token.isSymbol, kind]
    simp [readOutput, noStar, isSymbol_of_word isWord "*"]

/-- A column is an output. -/
theorem readOutput_column (names : NamesColumn (ts.map lexeme)) (halts : Halts rest) :
    ∃ output, readOutput sql (ts ++ rest) = .ok (output, rest) := by
  obtain ⟨e, read⟩ := readWhole_column names halts
  obtain ⟨text, value⟩ := readValueOutput_of_whole read halts
  exact ⟨.value e none text, (readOutput_eq names halts).trans value⟩

/-- A column is a term to sort by. -/
theorem readOrderTerm_column (names : NamesColumn (ts.map lexeme)) (halts : Halts rest) :
    ∃ term, readOrderTerm (ts ++ rest) = .ok (term, rest) := by
  obtain ⟨e, read⟩ := readWhole_column names halts
  have descending : skipWord? "DESC" rest = none := halts.skipWord? (by decide)
  have ascending : skipWord? "ASC" rest = none := halts.skipWord? (by decide)
  exact ⟨⟨e, false, nextPlace [] (ts ++ rest)⟩, by
    simp [readOrderTerm, read, descending, ascending, bind, Except.bind]⟩

end Columns

section Questions

/-- Tokens that are read as the outputs of a question. -/
structure ShowsOutputs (sql : List Char) (ts : List Token) : Prop where
  begins : ∃ t us, ts = t :: us ∧ ∀ word ∈ ["DISTINCT", "ALL"], t.isWord word = false
  reads : ∀ {u rest}, u.isWord "FROM" = true →
    ∃ outputs, readCommas (readOutput sql) (ts ++ u :: rest) = .ok (outputs, u :: rest)

/-- The star is read as an output. -/
theorem showsOutputs_star (isStar : t.isSymbol "*" = true) : ShowsOutputs sql [t] :=
  ⟨⟨t, [], rfl, fun word _ => isWord_of_isSymbol isStar word⟩,
    fun isFrom => ⟨[.all], readCommas_star isStar isFrom _⟩⟩

/-- Columns with commas between them are read as outputs. -/
theorem showsOutputs_columns {columns : List (List (TokenKind × List Char))} (present : columns ≠ [])
    (names : ∀ column ∈ columns, NamesColumn column)
    (written : ts.map lexeme = [comma].intercalate columns) : ShowsOutputs sql ts := by
  constructor
  · obtain ⟨column, others, rfl⟩ := List.exists_cons_of_ne_nil present
    obtain ⟨ls, first⟩ : ∃ ls, [comma].intercalate (column :: others) = column ++ ls := by
      cases others with
      | nil => exact ⟨[], by simp⟩
      | cons other others => exact ⟨_, by rw [List.intercalate_cons_cons, List.append_assoc]⟩
    obtain ⟨t, us, same, begins⟩ := (names column List.mem_cons_self).begins (written.trans first)
    exact ⟨t, us, same, fun word mem => begins word (by revert word; decide)⟩
  · intro u rest isFrom
    have written : ts.map lexeme = [comma].intercalate (columns.map id) := by rwa [List.map_id]
    have ends : skipSymbol? "," (u :: rest) = none := by
      simp [skipSymbol?, isSymbol_of_isWord isFrom]
    obtain ⟨outputs, read, -⟩ : ∃ outputs, readCommas (readOutput sql) (ts ++ u :: rest) =
        .ok (outputs, u :: rest) ∧ List.Forall₂ (fun _ _ => True) outputs columns := by
      refine readCommas_of_lexemes present written (.word (by decide) isFrom) ends ?_
      intro column mem part own behind halts
      have own : part.map lexeme = column := own
      obtain ⟨output, read⟩ := readOutput_column (own ▸ names column mem) halts
      exact ⟨output, read, trivial⟩
    exact ⟨outputs, read⟩

/-- The number of rows is read as an output. -/
theorem showsOutputs_count (written : ts.map lexeme = [word "COUNT", (.symbol, ['(']), star,
    (.symbol, [')']), word "AS", word "count"]) : ShowsOutputs sql ts := by
  obtain ⟨c, ts, rfl, isCount, written⟩ := List.map_eq_cons_iff.1 written
  obtain ⟨o, ts, rfl, opens, written⟩ := List.map_eq_cons_iff.1 written
  obtain ⟨s, ts, rfl, isStar, written⟩ := List.map_eq_cons_iff.1 written
  obtain ⟨q, ts, rfl, closes, written⟩ := List.map_eq_cons_iff.1 written
  obtain ⟨a, ts, rfl, isAs, written⟩ := List.map_eq_cons_iff.1 written
  obtain ⟨n, ts, rfl, isAlias, nothing⟩ := List.map_eq_cons_iff.1 written
  obtain rfl := List.map_eq_nil_iff.1 nothing
  have isName : c.isName = true := by rw [isName_of_word isCount]; decide
  have named : n.isName = true := by rw [isName_of_word isAlias]; decide
  have opens (symbol : String) : o.isSymbol symbol = ("(" == symbol) := isSymbol_of_symbol opens symbol
  have isStar (symbol : String) : s.isSymbol symbol = ("*" == symbol) := isSymbol_of_symbol isStar symbol
  have closes (symbol : String) : q.isSymbol symbol = (")" == symbol) := isSymbol_of_symbol closes symbol
  have isAs (word : String) : a.isWord word = ("AS" == word) := by
    rw [isWord_of_word isAs]
    rfl
  refine ⟨⟨c, _, rfl, fun word mem => ?_⟩, fun {u rest} isFrom => ?_⟩
  · rw [isWord_of_word isCount]
    revert word
    decide
  · have operand (fuel : Nat) : readOperand (fuel + 2) (c :: o :: s :: q :: a :: n :: u :: rest) =
        .ok (.call c.unquoted [] true false c.start, a :: n :: u :: rest) := by
      have passed : skipSymbol? "(" (o :: s :: q :: a :: n :: u :: rest) =
          some (s :: q :: a :: n :: u :: rest) := skipSymbol?_cons (by rw [opens]; rfl) _
      have noCast : c.isWord "CAST" = false := by
        rw [isWord_of_word isCount]
        decide
      rw [readOperand_name isName (by simp [(of_word isCount).1]) _ _ (by simp [noCast])]
      simp [readNamed, passed, isStar, closes]
    have stops : Stops 0 (a :: n :: u :: rest) := by
      refine ⟨by rw [isAs]; decide, fun follow follows => ?_⟩
      have isWord : a.isWord "AS" = true := by
        rw [isAs]
        rfl
      rw [follow?_of_isWord isWord] at follows
      cases follows
    have read : readWhole (c :: o :: s :: q :: a :: n :: u :: rest) =
        .ok (.call c.unquoted [] true false c.start, a :: n :: u :: rest) := by
      rw [readWhole, exprFuel, readExpr, operand]
      exact readFollows_of_stops (by omega) stops
    have shown : readAlias (a :: n :: u :: rest) = .ok (some n.unquoted, u :: rest) := by
      simp [readAlias, skipWord?, isAs, readName_cons named, bind, Except.bind]
    have noStar := isSymbol_of_word isCount "*"
    have ends : skipSymbol? "," (u :: rest) = none := by
      simp [skipSymbol?, isSymbol_of_isWord isFrom]
    obtain ⟨output, isOutput⟩ : ∃ output, readOutput sql (c :: o :: s :: q :: a :: n :: u :: rest) =
        .ok (output, u :: rest) := by
      have point : o.isSymbol "." = false := by rw [opens]; rfl
      exact ⟨_, by simp only [readOutput, noStar, point, readValueOutput, read, shown, bind,
        Except.bind, Bool.and_false, Bool.false_and, Bool.false_eq_true, if_false]; rfl⟩
    exact ⟨[output], by simp [readCommas, readList, isOutput, ends, bind, Except.bind]⟩

/-- What may stand behind the table of a question: nothing, a condition or an order. -/
inductive EndsTable : List Token → Prop
  | nothing : EndsTable []
  | word {w : Token} {ts : List Token} {text : String} :
      text ∈ ["WHERE", "ORDER"] → w.isWord text = true → EndsTable (w :: ts)

/-- The table of a question is at its end there. -/
theorem EndsTable.halts (ends : EndsTable rest) : Halts rest := by
  cases ends with
  | nothing => exact .nothing
  | word known isWord =>
    refine .word ?_ isWord
    have enders : ∀ text ∈ ["WHERE", "ORDER"], text ∈ enders := by decide
    exact enders _ known

/-- No table is joined there. -/
theorem EndsTable.readJoined (ends : EndsTable rest) (fuel : Nat) :
    readJoined (fuel + 1) rest = .ok ([], rest) := by
  cases ends with
  | nothing => rfl
  | @word w ts text known isWord =>
    have other (word : String) (differs : word ∉ ["WHERE", "ORDER"]) : w.isWord word = false := by
      rw [isWord_iff_of_isWord isWord, beq_eq_false_iff_ne]
      rintro rfl
      exact differs known
    simp [Sql.readJoined, readJoin, skipSymbol?, skipWord?, isSymbol_of_isWord isWord,
      other "JOIN" (by decide), other "INNER" (by decide), other "CROSS" (by decide),
      other "LEFT" (by decide), bind, Except.bind]

/-- The outputs of a question are read up to its table. -/
theorem readSelect_outputs (shows : ShowsOutputs sql ts) (isFrom : u.isWord "FROM" = true)
    (rest : List Token) :
    skipWord? "DISTINCT" (ts ++ u :: rest) = none ∧ skipWord? "ALL" (ts ++ u :: rest) = none ∧
      ∃ outputs, readCommas (readOutput sql) (ts ++ u :: rest) = .ok (outputs, u :: rest) := by
  obtain ⟨outputs, shown⟩ : ∃ outputs, readCommas (readOutput sql) (ts ++ u :: rest) =
    .ok (outputs, u :: rest) := shows.reads isFrom
  obtain ⟨first, others, rfl, plain⟩ := shows.begins
  exact ⟨by simp [skipWord?, plain "DISTINCT" (by simp)], by simp [skipWord?, plain "ALL" (by simp)],
    outputs, shown⟩

/-- A question is read behind its tables. -/
theorem readStatement_tables {outputs : List Output} {sources : List Source}
    (isSelect : t.isWord "SELECT" = true)
    (begins : ∃ v vs, ts = v :: vs ∧ ∀ word ∈ ["DISTINCT", "ALL"], v.isWord word = false)
    (shown : readCommas (readOutput sql) (ts ++ u :: n :: rest) = .ok (outputs, u :: n :: rest))
    (isFrom : u.isWord "FROM" = true) (isName : n.isName = true) (halts : Halts rest)
    (joined : readJoined (rest.length + 1) rest = .ok (sources, us)) :
    readStatement sql (t :: (ts ++ u :: n :: rest)) =
      (readCondition us >>= fun b =>
        readBehind outputs (⟨.inner, n.unquoted, none, none, []⟩ :: sources) b.1 b.2 >>= fun query =>
          .ok (.select query.1, query.2)) := by
  obtain ⟨first, others, rfl, plain⟩ := begins
  simp only [Token.isWord, Bool.and_eq_true, beq_iff_eq] at isSelect
  have read : readSelect sql (first :: others ++ u :: n :: rest) = (readCondition us >>= fun b =>
      readBehind outputs (⟨.inner, n.unquoted, none, none, []⟩ :: sources) b.1 b.2) :=
    readSelect_eq plain shown isFrom (readTable_bare isName halts) joined
  simp only [readStatement, isSelect, read]
  cases readCondition us <;> rfl

/-- A question is read behind the name of its table. -/
theorem readStatement_question (isSelect : t.isWord "SELECT" = true) (shows : ShowsOutputs sql ts)
    (isFrom : u.isWord "FROM" = true) (isName : n.isName = true) (ends : EndsTable rest) :
    ∃ outputs, readStatement sql (t :: (ts ++ u :: n :: rest)) =
      (readCondition rest >>= fun b =>
        readBehind outputs [⟨.inner, n.unquoted, none, none, []⟩] b.1 b.2 >>= fun query =>
          .ok (.select query.1, query.2)) := by
  obtain ⟨outputs, shown⟩ : ∃ outputs, readCommas (readOutput sql) (ts ++ u :: n :: rest) =
    .ok (outputs, u :: n :: rest) := shows.reads isFrom
  exact ⟨outputs, readStatement_tables isSelect shows.begins shown isFrom isName ends.halts
    (ends.readJoined rest.length)⟩

/-- A question whose table is named by a keyword is refused there. -/
theorem readStatement_refused (isSelect : t.isWord "SELECT" = true) (shows : ShowsOutputs sql ts)
    (isFrom : u.isWord "FROM" = true) (noName : n.isName = false) :
    readStatement sql (t :: (ts ++ u :: n :: rest)) = .error (.here (n :: rest)) := by
  obtain ⟨distinct, all, outputs, shown⟩ := readSelect_outputs shows isFrom (n :: rest)
  simp only [Token.isWord, Bool.and_eq_true, beq_iff_eq] at isSelect
  simp only [readStatement, isSelect, readSelect, distinct, all, Option.or_none, Option.getD_none,
    shown, skipWord?_cons isFrom, readTable, readName, noName, bind, Except.bind]
  rfl

/-- Behind the condition of a query may stand columns to sort by. -/
theorem readBehind_order {columns : List (List (TokenKind × List Char))} (present : columns ≠ [])
    (names : ∀ column ∈ columns, NamesColumn column)
    (written : ts.map lexeme = [comma].intercalate columns) (isOrder : t.isWord "ORDER" = true)
    (isBy : u.isWord "BY" = true) (outputs : List Output) (sources : List Source)
    (condition : Option Expr) :
    ∃ query, query.sources = sources ∧
      readBehind outputs sources condition (t :: u :: ts) = .ok (query, []) := by
  have written : ts.map lexeme = [comma].intercalate (columns.map id) := by rwa [List.map_id]
  obtain ⟨terms, read, -⟩ : ∃ terms, readCommas readOrderTerm (ts ++ []) = .ok (terms, []) ∧
      List.Forall₂ (fun _ _ => True) terms columns := by
    refine readCommas_of_lexemes present written .nothing rfl ?_
    intro column mem part own behind halts
    have own : part.map lexeme = column := own
    obtain ⟨term, read⟩ := readOrderTerm_column (own ▸ names column mem) halts
    exact ⟨term, read, trivial⟩
  rw [List.append_nil] at read
  have other (word : String) (differs : "ORDER" ≠ word) : t.isWord word = false := by
    rwa [isWord_iff_of_isWord isOrder, beq_eq_false_iff_ne]
  refine ⟨⟨false, outputs, sources, condition, [], none, terms, none, none⟩, rfl, ?_⟩
  simp [readBehind, readClause, skipWord?, other "GROUP" (by decide), other "HAVING" (by decide),
    isOrder, expectWord_cons isBy, read, bind, Except.bind, pure, Except.pure]

end Questions

end Registrar.Sql
