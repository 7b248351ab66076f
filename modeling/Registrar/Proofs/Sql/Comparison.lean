import Registrar.Proofs.Sql.Numbering
import Registrar.Proofs.Sql.Truth

/-!
# Comparisons with parameters

A column, an operator and marks are read as a comparison, and its truth is that of the operator on
the cell of the column and the cells bound to the marks.  The statements here go from what the
tokens of a text are and from the numbers of its marks to the expression read and its truth, so
that nothing about tokens is needed beyond them.
-/

namespace Registrar.Sql

open Registrar.Text Token

/-- Whether a name can stand for a column as it is. -/
def IsPlainName (name : String) : Prop :=
  isIdentifier name = true ∧ isReserved name = false

instance (name : String) : Decidable (IsPlainName name) :=
  inferInstanceAs (Decidable (_ ∧ _))

/-- A truth value, negated if a test is. -/
def negatedIf (negated : Bool) (truth : Option Bool) : Option Bool :=
  if negated then truth.map (! ·) else truth

/-- A column's cell and how it compares. -/
structure Operand where
  cell : Cell
  affinity : Affinity
  collation : Collation

/-- The truth of a comparison of a column with cells: with the first one, or with all of them where
it asks for membership. -/
def Comparator.truth (operand : Operand) (cells : List Cell) : Comparator → Option Bool
  | .relation op =>
    Cell.comparison op (some operand.affinity) operand.collation operand.cell (cells.headD .null)
  | .pattern kind negated => negatedIf negated (Cell.matching kind operand.cell (cells.headD .null))
  | .member negated =>
    negatedIf negated
      (Cell.member (some operand.affinity) operand.collation operand.cell cells)

/-- What a name stands for in a row, if it stands for a column. -/
def Names.operand? (names : Names) (env : Env) (name : String) : Option Operand :=
  match names.column none name false 0 with
  | .ok (.slot i affinity collation) => some ⟨(env.cells[i]?).getD .null, affinity, collation⟩
  | _ => none

/-- A name means the same wherever it stands. -/
theorem column_toOption (names : Names) (table : Option String) (name : String) (quoted : Bool)
    (place other : Nat) : (names.column table name quoted place).toOption =
      (names.column table name quoted other).toOption := by
  unfold Names.column
  dsimp only
  split
  · rfl
  · rfl
  · split
    · rfl
    · rfl
    · split <;> rfl

/-- What a name stands for in one place it stands for in every other. -/
theorem column_of_place {names : Names} {table : Option String} {name : String} {quoted : Bool}
    {place : Nat} {e : Expr} (found : names.column table name quoted place = .ok e) (other : Nat) :
    names.column table name quoted other = .ok e := by
  have same := column_toOption names table name quoted other place
  rw [found] at same
  cases here : names.column table name quoted other with
  | ok e' =>
    rw [here] at same
    exact congrArg Except.ok (Option.some.inj same)
  | error fault =>
    rw [here] at same
    cases same

/-- The truth of a negated test. -/
theorem Expr.truth?_negatedIf {names : Names} {env : Env} (negated : Bool) (e : Expr) :
    (Expr.negatedIf negated e).truth? names env =
      (e.truth? names env).map (Sql.negatedIf negated) := by
  cases negated with
  | false =>
    have same : Sql.negatedIf false = id := rfl
    rw [same, Option.map_id, Expr.negatedIf]
    rfl
  | true => rw [Expr.negatedIf, if_pos rfl, Expr.truth?_not]; rfl

/-- The column of a bare word. -/
theorem resolve_columnOf {names : Names} {env : Env} {name : Token} (kind : name.kind = .word)
    {operand : Operand} (found : names.operand? env name.text = some operand) :
    ∃ i, names.resolve (columnOf name) = .ok (.slot i operand.affinity operand.collation) ∧
      (env.cells[i]?).getD .null = operand.cell := by
  unfold Names.operand? at found
  split at found
  · next i affinity collation column =>
    obtain rfl := Option.some.inj found
    refine ⟨i, ?_, rfl⟩
    have unquoted : name.unquoted = name.text := by
      simp [Token.unquoted, Token.text, kind]
    have bare : (name.kind == TokenKind.quotedName) = false := by
      rw [kind]
      rfl
    rw [columnOf, unquoted, bare, Names.resolve]
    exact column_of_place column name.start
  · cases found

/-- The cell of a parameter. -/
theorem eval_parameter {env : Env} {number : Nat} {cell : Cell}
    (bound : env.parameters[number - 1]? = some cell) :
    (Expr.parameter number).eval env = .ok cell := by
  rw [Expr.eval, bound]
  rfl

/-- The cells of parameters. -/
theorem evalAll_parameters {env : Env} {numbers : List Nat} {cells : List Cell}
    (bound : numbers.map (fun n => env.parameters[n - 1]?) = cells.map some) :
    Expr.evalAll env (numbers.map Expr.parameter) = .ok cells := by
  induction numbers generalizing cells with
  | nil =>
    obtain rfl := List.map_eq_nil_iff.1 bound.symm
    rfl
  | cons n numbers ih =>
    cases cells with
    | nil => cases bound
    | cons cell cells =>
      rw [List.map_cons, List.map_cons, List.cons.injEq] at bound
      simp [Expr.evalAll, eval_parameter bound.1, ih bound.2, bind, Except.bind]

/-- Parameters have no names to resolve. -/
theorem resolveAll_parameters (names : Names) (numbers : List Nat) :
    names.resolveAll (numbers.map Expr.parameter) = .ok (numbers.map Expr.parameter) := by
  induction numbers with
  | nil => rfl
  | cons n numbers ih => simp [Names.resolveAll, Names.resolve, ih, bind, Except.bind]

section Truth

variable {names : Names} {env : Env} {name : Token} {operand : Operand}

/-- The truth of the comparison of a column with a parameter. -/
theorem truth?_relation (kind : name.kind = .word)
    (found : names.operand? env name.text = some operand) {op : BinaryOp}
    {spelling : List Spelling} (known : (spelling, .relation op) ∈ Comparator.table)
    {number : Nat} {cell : Cell} (bound : env.parameters[number - 1]? = some cell) :
    (Expr.binary op (columnOf name) (.parameter number)).truth? names env =
      some ((Comparator.relation op).truth operand [cell]) := by
  obtain ⟨i, resolved, slot⟩ := resolve_columnOf kind found
  have compares : ∀ entry ∈ Comparator.table, ∀ op, entry.2 = .relation op →
      ∀ affinity collation x y, Cell.binary op affinity collation x y =
        Cell.ofTruth (Cell.comparison op affinity collation x y) := by
    intro entry mem op written
    simp only [Comparator.table, List.mem_cons, List.not_mem_nil, or_false] at mem
    rcases mem with rfl | rfl | rfl | rfl | rfl | rfl | rfl | rfl | rfl | rfl | rfl | rfl | rfl |
      rfl | rfl | rfl | rfl | rfl <;> cases written <;> exact fun _ _ _ _ => rfl
  have binary := compares _ known op rfl
  simp only [Expr.truth?, Names.resolve, resolved, bind, Except.bind, Expr.eval,
    bound, Option.getD_some, slot, binary, Cell.truth_ofTruth]
  rfl

/-- The truth of the match of a column with a parameter. -/
theorem truth?_pattern (kind : name.kind = .word)
    (found : names.operand? env name.text = some operand) (pattern : PatternKind) (negated : Bool)
    {number : Nat} {cell : Cell} (bound : env.parameters[number - 1]? = some cell) :
    (Expr.negatedIf negated (.pattern pattern (columnOf name) (.parameter number) none)).truth?
        names env =
      some ((Comparator.pattern pattern negated).truth operand [cell]) := by
  obtain ⟨i, resolved, slot⟩ := resolve_columnOf kind found
  rw [Expr.truth?_negatedIf]
  simp only [Expr.truth?, Names.resolve, Names.resolveOption, resolved, bind, Except.bind,
    Expr.eval, bound, Option.getD_some, slot, Cell.matchesPattern_none, Cell.truth_ofTruth]
  rfl

/-- The truth of membership of a column among parameters. -/
theorem truth?_member (kind : name.kind = .word)
    (found : names.operand? env name.text = some operand) (negated : Bool) {numbers : List Nat}
    {cells : List Cell}
    (bound : numbers.map (fun n => env.parameters[n - 1]?) = cells.map some) :
    (Expr.negatedIf negated (.member (columnOf name) (numbers.map .parameter))).truth? names env =
      some ((Comparator.member negated).truth operand cells) := by
  obtain ⟨i, resolved, slot⟩ := resolve_columnOf kind found
  rw [Expr.truth?_negatedIf]
  simp only [Expr.truth?, Names.resolve, resolved, resolveAll_parameters, bind, Except.bind,
    Expr.eval, slot, evalAll_parameters bound, Cell.truth_ofTruth]
  rfl

end Truth

/-- Cells are bound to the parameters behind a number, one after another. -/
def Env.Binds (env : Env) (k : Nat) (cells : List Cell) : Prop :=
  ∀ i cell, cells[i]? = some cell → env.parameters[k + i]? = some cell

/-- What is bound to two parts is bound to either. -/
theorem Env.Binds.append {env : Env} {k : Nat} {cells others : List Cell}
    (binds : env.Binds k (cells ++ others)) :
    env.Binds k cells ∧ env.Binds (k + cells.length) others := by
  constructor
  · intro i cell at'
    have inside : i < cells.length := (List.getElem?_eq_some_iff.1 at').1
    exact binds i cell (by rw [List.getElem?_append_left inside, at'])
  · intro i cell at'
    have behind : (cells ++ others)[cells.length + i]? = some cell := by
      rw [List.getElem?_append_right (Nat.le_add_right _ _), Nat.add_sub_cancel_left, at']
    have place : k + cells.length + i = k + (cells.length + i) := Nat.add_assoc _ _ _
    rw [place]
    exact binds (cells.length + i) cell behind

/-- Cells bound behind a number are those of the parameters from the next number on. -/
theorem Env.Binds.range {env : Env} {k : Nat} {cells : List Cell} (binds : env.Binds k cells) :
    (List.range' (k + 1) cells.length).map (fun n => env.parameters[n - 1]?) =
      cells.map some := by
  induction cells generalizing k with
  | nil => rfl
  | cons cell cells ih =>
    have first : env.parameters[k]? = some cell := binds 0 cell rfl
    have rest : env.Binds (k + 1) cells := by
      intro i c at'
      have place : k + 1 + i = k + (i + 1) := by omega
      rw [place]
      exact binds (i + 1) c at'
    simp only [List.length_cons, List.range'_succ, List.map_cons, Nat.add_sub_cancel, first,
      ih rest]

/-- What the tokens of some marks with commas between them are. -/
def markLexemes : Nat → List (TokenKind × List Char)
  | 0 => []
  | 1 => [mark]
  | n + 2 => mark :: (.symbol, [',']) :: markLexemes (n + 1)

/-- There are as many parameters as marks. -/
@[simp] theorem parameterCount_markLexemes (n : Nat) : parameterCount (markLexemes n) = n := by
  induction n using markLexemes.induct with
  | case1 => rfl
  | case2 => rfl
  | case3 n ih =>
    rw [markLexemes, parameterCount_cons, parameterCount_cons, ih]
    simp [mark]
    omega

/-- Marks have no names. -/
theorem unnamed_markLexemes (n : Nat) : Unnamed (markLexemes n) := by
  induction n using markLexemes.induct with
  | case1 =>
    intro l mem
    cases mem
  | case2 =>
    intro l mem _
    exact List.mem_singleton.1 mem
  | case3 n ih => exact (ih.cons (.inl (by decide))).cons (.inr rfl)

/-- A token that is written as a mark is a parameter. -/
theorem kind_of_mark {t : Token} (written : t.lexeme = mark) : t.kind = .parameter :=
  congrArg Prod.fst written

/-- A token that is written as a symbol is that symbol. -/
theorem isSymbol_of_lexeme {t : Token} {c : Char} (written : t.lexeme = (.symbol, [c])) :
    t.isSymbol (String.ofList [c]) = true := by
  have kind : t.kind = .symbol := congrArg Prod.fst written
  have source : t.source = [c] := congrArg Prod.snd written
  simp [Token.isSymbol, Token.text, kind, source]

/-- What is in parentheses is numbered like the whole. -/
theorem tokens_of_enclosed {k : Nat} {ts : List Token} {ls : List (TokenKind × List Char)}
    (written : ts.map lexeme = (.symbol, ['(']) :: ls ++ [(.symbol, [')'])])
    (numbered : Numbered k ts) :
    ∃ opening us closing, ts = opening :: us ++ [closing] ∧ opening.isSymbol "(" = true ∧
      closing.isSymbol ")" = true ∧ us.map lexeme = ls ∧ Numbered k us := by
  obtain ⟨opening, rest, rfl, first, behind⟩ := List.map_eq_cons_iff.1 written
  obtain ⟨us, ending, rfl, inside, ofEnding⟩ := List.map_eq_append_iff.1 behind
  obtain ⟨closing, rest, rfl, last, none⟩ := List.map_eq_cons_iff.1 ofEnding
  obtain rfl := List.map_eq_nil_iff.1 none
  have kind : opening.kind = .symbol := congrArg Prod.fst first
  have numberedInside : Numbered k us := by
    simp only [Numbered, kind, reduceCtorEq, if_false] at numbered
    exact (numbered_append.1 numbered).1
  exact ⟨opening, us, closing, rfl, isSymbol_of_lexeme first, isSymbol_of_lexeme last, inside,
    numberedInside⟩

/-- Numbered marks are the parameters behind a number. -/
theorem marks_of_lexemes (n : Nat) {k : Nat} {ts : List Token}
    (written : ts.map lexeme = markLexemes (n + 1)) (numbered : Numbered k ts) :
    Marks ts ((List.range' (k + 1) (n + 1)).map .parameter) := by
  induction n generalizing k ts with
  | zero =>
    obtain ⟨m, rest, rfl, first, none⟩ := List.map_eq_cons_iff.1 written
    obtain rfl := List.map_eq_nil_iff.1 none
    have kind := kind_of_mark first
    have slot : m.slot = k + 1 := by
      simp only [Numbered, kind, if_true] at numbered
      exact numbered.1
    rw [List.range'_succ, List.map_cons, ← slot]
    exact Marks.one kind
  | succ n ih =>
    obtain ⟨m, rest, rfl, first, behind⟩ := List.map_eq_cons_iff.1 written
    obtain ⟨comma, us, rfl, second, behind⟩ := List.map_eq_cons_iff.1 behind
    have kind := kind_of_mark first
    have other : comma.kind = .symbol := congrArg Prod.fst second
    simp only [Numbered, kind, if_true, other, reduceCtorEq, if_false] at numbered
    rw [List.range'_succ, List.map_cons, ← numbered.1]
    have marks := ih behind numbered.2
    rw [← numbered.1] at marks
    exact Marks.more kind (isSymbol_of_lexeme second) marks

/-- Tokens written as the words of an operator spell it. -/
theorem spelling_of_lexeme {t : Token} {word : String} (written : t.lexeme = wordLexeme word) :
    t.spelling = Comparator.wordSpelling word := by
  have kind : t.kind = (Comparator.wordSpelling word).1 := congrArg Prod.fst written
  have source : t.source = word.toList := congrArg Prod.snd written
  have text : t.text = word := by rw [Token.text, source, String.ofList_toList]
  unfold Token.spelling
  unfold Comparator.wordSpelling at kind ⊢
  by_cases letters : word.toList.all isLetter = true
  · rw [if_pos letters] at kind ⊢
    rw [kind, text]
    rfl
  · rw [if_neg letters] at kind ⊢
    rw [kind, text]
    rfl

/-- The tokens of an operator's words are in the table of operators. -/
theorem mem_table_of_lexemes {operator : String} {comparator : Comparator}
    (known : Comparator.ofText? operator = some comparator) {ts : List Token}
    (written : ts.map lexeme = (words operator).map wordLexeme) :
    (ts.map Token.spelling, comparator) ∈ Comparator.table := by
  obtain ⟨-, inTable⟩ := Comparator.of_ofText? known
  have same : ts.map Token.spelling = (words operator).map Comparator.wordSpelling := by
    generalize words operator = ws at written
    induction ts generalizing ws with
    | nil =>
      obtain rfl := List.map_eq_nil_iff.1 written.symm
      rfl
    | cons t ts ih =>
      obtain ⟨w, ws, rfl, first, rest⟩ := List.map_eq_cons_iff.1 written.symm
      rw [List.map_cons, List.map_cons, spelling_of_lexeme first.symm, ih ws rest.symm]
  rwa [same]

/-- The words of an operator are no parameters. -/
theorem kind_wordLexeme (word : String) : (wordLexeme word).1 ≠ .parameter := by
  simp only [wordLexeme, Comparator.wordSpelling]
  split
  · exact (by decide : TokenKind.word ≠ .parameter)
  · exact (by decide : TokenKind.symbol ≠ .parameter)

/-- The words of an operator have no parameters among them. -/
theorem parameterCount_words (ws : List String) : parameterCount (ws.map wordLexeme) = 0 := by
  rw [parameterCount, List.countP_eq_zero]
  intro l mem
  obtain ⟨word, -, rfl⟩ := List.mem_map.1 mem
  simpa using kind_wordLexeme word

/-- What the tokens of a column, an operator and what is compared with it are. -/
def comparisonLexemes (column operator : String) (compared : List (TokenKind × List Char)) :
    List (TokenKind × List Char) :=
  (.word, column.toList) :: (words operator).map wordLexeme ++ compared

/-- The parameters of a comparison are those of what is compared. -/
@[simp] theorem parameterCount_comparisonLexemes (column operator : String)
    (compared : List (TokenKind × List Char)) :
    parameterCount (comparisonLexemes column operator compared) = parameterCount compared := by
  simp [comparisonLexemes, parameterCount_words]

/-- The parameters of a comparison have no names if those of what is compared have none. -/
theorem unnamed_comparisonLexemes (column operator : String)
    {compared : List (TokenKind × List Char)} (unnamed : Unnamed compared) :
    Unnamed (comparisonLexemes column operator compared) := by
  have before : Unnamed ((.word, column.toList) :: (words operator).map wordLexeme) := by
    intro l mem parameter
    rcases List.mem_cons.1 mem with rfl | mem
    · cases parameter
    · obtain ⟨word, -, rfl⟩ := List.mem_map.1 mem
      exact absurd parameter (kind_wordLexeme word)
  exact before.append unnamed

section Comparison

variable {column operator : String} {comparator : Comparator} {ts : List Token} {k : Nat}
  {compared : List (TokenKind × List Char)}

/-- The tokens of a comparison are those of its column, of its operator and of what is compared,
and only the last have parameters among them. -/
theorem tokens_of_comparison (plain : IsPlainName column)
    (known : Comparator.ofText? operator = some comparator)
    (written : ts.map lexeme = comparisonLexemes column operator compared)
    (numbered : Numbered k ts) :
    ∃ name ops us, ts = name :: ops ++ us ∧ name.IsColumn ∧ name.text = column ∧
      (ops.map Token.spelling, comparator) ∈ Comparator.table ∧ us.map lexeme = compared ∧
      Numbered k us := by
  obtain ⟨name, rest, rfl, first, behind⟩ := List.map_eq_cons_iff.1 written
  obtain ⟨ops, us, rfl, ofOperator, ofCompared⟩ := List.map_eq_append_iff.1 behind
  have kind : name.kind = .word := congrArg Prod.fst first
  have source : name.source = column.toList := congrArg Prod.snd first
  have text : name.text = column := by rw [Token.text, source, String.ofList_toList]
  have inTable := mem_table_of_lexemes known ofOperator
  have noMarks : parameterCount (ops.map lexeme) = 0 := by
    rw [ofOperator]
    exact parameterCount_words (words operator)
  have rest : Numbered k us := by
    simp only [Numbered, kind, reduceCtorEq, if_false] at numbered
    have behind := (numbered_append.1 numbered).2
    rwa [noMarks] at behind
  exact ⟨name, ops, us, rfl, ⟨kind, by rw [text]; exact plain.2⟩, text, inTable, ofCompared, rest⟩

/-- A comparison with one mark is read, and its truth is that of its operator on the cell bound to
the mark. -/
theorem reads_single (plain : IsPlainName column)
    (known : Comparator.ofText? operator = some comparator) (single : comparator.isMember = false)
    (written : ts.map lexeme = comparisonLexemes column operator [mark])
    (numbered : Numbered k ts) :
    ∃ e, Reads .term ts e ∧ ∀ names env operand cell, names.operand? env column = some operand →
      env.Binds k [cell] → e.truth? names env = some (comparator.truth operand [cell]) := by
  obtain ⟨name, ops, us, rfl, isColumn, rfl, inTable, marked, numbered⟩ :=
    tokens_of_comparison plain known written numbered
  obtain ⟨m, rest, rfl, first, none⟩ := List.map_eq_cons_iff.1 marked
  obtain rfl := List.map_eq_nil_iff.1 none
  have kind := kind_of_mark first
  have slot : m.slot - 1 = k := by
    simp only [Numbered, kind, if_true] at numbered
    omega
  have found : ∀ {env : Env} {cell : Cell}, env.Binds k [cell] →
      env.parameters[m.slot - 1]? = some cell := by
    intro env cell binds
    rw [slot]
    exact binds 0 cell rfl
  cases comparator with
  | relation op =>
    exact ⟨_, Reads.relation isColumn inTable kind, fun names env operand cell column binds =>
      truth?_relation isColumn.1 column inTable (found binds)⟩
  | pattern pattern negated =>
    exact ⟨_, Reads.pattern isColumn inTable kind, fun names env operand cell column binds =>
      truth?_pattern isColumn.1 column pattern negated (found binds)⟩
  | member negated => cases single

/-- Membership in a list of marks is read, and its truth is that of its operator on the cells bound
to the marks. -/
theorem reads_listed (plain : IsPlainName column)
    (known : Comparator.ofText? operator = some comparator) (listed : comparator.isMember = true)
    {n : Nat} (written : ts.map lexeme = comparisonLexemes column operator
      ((.symbol, ['(']) :: markLexemes n ++ [(.symbol, [')'])]))
    (numbered : Numbered k ts) :
    ∃ e, Reads .term ts e ∧ ∀ names env operand cells, names.operand? env column = some operand →
      cells.length = n → env.Binds k cells →
      e.truth? names env = some (comparator.truth operand cells) := by
  obtain ⟨name, ops, us, rfl, isColumn, rfl, inTable, marked, numbered⟩ :=
    tokens_of_comparison plain known written numbered
  obtain ⟨opening, marks, closing, rfl, opens, closes, ofMarks, numbered⟩ :=
    tokens_of_enclosed marked numbered
  cases comparator with
  | relation op => cases listed
  | pattern pattern negated => cases listed
  | member negated =>
    cases n with
    | zero =>
      obtain rfl := List.map_eq_nil_iff.1 ofMarks
      refine ⟨_, Reads.nothing isColumn inTable opens closes, ?_⟩
      intro names env operand cells _ length _
      obtain rfl := List.eq_nil_of_length_eq_zero length
      cases negated <;> rfl
    | succ n =>
      have read := Reads.member isColumn inTable opens (marks_of_lexemes n ofMarks numbered) closes
      refine ⟨_, by simpa using read, ?_⟩
      intro names env operand cells column length binds
      have bound := binds.range
      rw [length] at bound
      exact truth?_member isColumn.1 column negated bound

end Comparison

end Registrar.Sql
