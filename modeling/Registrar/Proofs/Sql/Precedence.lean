import Registrar.Proofs.Sql.Comparator

/-!
# Precedence

The grammar of boolean expressions in which comparisons are joined: parentheses bind first, then
negation, then conjunction, then disjunction, and equal operators group to the left.  `Reads` is
that grammar on tokens.  `Reads.readWhole` says that the reader of statements agrees with it: what
the grammar takes for an expression is read as that very expression, as long as there are no more
parameters than a statement may have.
-/

namespace Registrar.Sql

open Registrar.Text

/-- The outermost operator that a boolean expression may have without parentheses. -/
inductive Level where
  /-- None, or a negation. -/
  | term
  | conjunction
  | disjunction
deriving DecidableEq

/-- A word that names a column. -/
def Token.IsColumn (t : Token) : Prop :=
  t.kind = .word ∧ isReserved t.text = false

/-- Marks with commas between them, as parameters. -/
inductive Marks : List Token → List Expr → Prop where
  | one {m : Token} : m.kind = .parameter → Marks [m] [.parameter m.slot]
  | more {m comma : Token} {ts : List Token} {es : List Expr} : m.kind = .parameter →
      comma.isSymbol "," = true → Marks ts es →
      Marks (m :: comma :: ts) (.parameter m.slot :: es)

/-- The boolean expressions of a level: comparisons of a column with marks, joined by the words of
logic. -/
inductive Reads : Level → List Token → Expr → Prop where
  | relation {name m : Token} {operator : List Token} {op : BinaryOp} : name.IsColumn →
      (operator.map Token.spelling, .relation op) ∈ Comparator.table → m.kind = .parameter →
      Reads .term (name :: operator ++ [m]) (.binary op (columnOf name) (.parameter m.slot))
  | pattern {name m : Token} {operator : List Token} {kind : PatternKind} {negated : Bool} :
      name.IsColumn → (operator.map Token.spelling, .pattern kind negated) ∈ Comparator.table →
      m.kind = .parameter →
      Reads .term (name :: operator ++ [m])
        (Expr.negatedIf negated (.pattern kind (columnOf name) (.parameter m.slot) none))
  | member {name opening closing : Token} {operator ts : List Token} {es : List Expr}
      {negated : Bool} :
      name.IsColumn → (operator.map Token.spelling, .member negated) ∈ Comparator.table →
      opening.isSymbol "(" = true → Marks ts es → closing.isSymbol ")" = true →
      Reads .term (name :: operator ++ opening :: ts ++ [closing])
        (Expr.negatedIf negated (.member (columnOf name) es))
  | nothing {name opening closing : Token} {operator : List Token} {negated : Bool} :
      name.IsColumn → (operator.map Token.spelling, .member negated) ∈ Comparator.table →
      opening.isSymbol "(" = true → closing.isSymbol ")" = true →
      Reads .term (name :: operator ++ [opening, closing])
        (.literal (.integer (if negated then 1 else 0)))
  | group {opening closing : Token} {ts : List Token} {e : Expr} : opening.isSymbol "(" = true →
      Reads .disjunction ts e → closing.isSymbol ")" = true →
      Reads .term (opening :: ts ++ [closing]) e
  | negation {word : Token} {ts : List Token} {e : Expr} : word.isWord "NOT" = true →
      Reads .term ts e → Reads .term (word :: ts) (.unary .not e)
  | single {ts : List Token} {e : Expr} : Reads .term ts e → Reads .conjunction ts e
  | and {word : Token} {ts us : List Token} {a b : Expr} : Reads .conjunction ts a →
      word.isWord "AND" = true → Reads .term us b →
      Reads .conjunction (ts ++ word :: us) (.binary .and a b)
  | conjoined {ts : List Token} {e : Expr} : Reads .conjunction ts e → Reads .disjunction ts e
  | or {word : Token} {ts us : List Token} {a b : Expr} : Reads .disjunction ts a →
      word.isWord "OR" = true → Reads .conjunction us b →
      Reads .disjunction (ts ++ word :: us) (.binary .or a b)

/-- Whether reading an expression whose operators are at least as strong as a level stops before
some tokens. -/
def Stops (level : Nat) : List Token → Prop
  | [] => True
  | t :: _ =>
    t.isWord "ESCAPE" = false ∧ ∀ follow, t.follow? = some follow → follow.strength < level

/-- The parameters among some tokens have numbers that a statement may give. -/
def InRange (ts : List Token) : Prop :=
  ∀ t ∈ ts, t.kind = .parameter → 1 ≤ t.slot ∧ t.slot ≤ 32766

/-- There are no parameters among no tokens. -/
@[simp] theorem inRange_nil : InRange [] :=
  nofun

/-- One more token has to be in range if it is a parameter. -/
@[simp] theorem inRange_cons {t : Token} {ts : List Token} :
    InRange (t :: ts) ↔ (t.kind = .parameter → 1 ≤ t.slot ∧ t.slot ≤ 32766) ∧ InRange ts :=
  List.forall_mem_cons

/-- Both of two parts have to be in range. -/
@[simp] theorem inRange_append {ts us : List Token} :
    InRange (ts ++ us) ↔ InRange ts ∧ InRange us :=
  List.forall_mem_append

/-- What stops the reading at a level stops it at every higher one. -/
theorem Stops.mono {level higher : Nat} {rest : List Token} (stops : Stops level rest)
    (le : level ≤ higher) : Stops higher rest := by
  cases rest with
  | nil => trivial
  | cons t rest => exact ⟨stops.1, fun follow at' => Nat.lt_of_lt_of_le (stops.2 follow at') le⟩

/-- Reading stops before tokens that stop it. -/
theorem readFollows_of_stops {fuel level : Nat} {e : Expr} {rest : List Token} (fueled : 0 < fuel)
    (stops : Stops level rest) : readFollows fuel level e rest = .ok (e, rest) := by
  obtain ⟨fuel, rfl⟩ := Nat.exists_eq_succ_of_ne_zero (Nat.ne_of_gt fueled)
  cases rest with
  | nil => simp [readFollows]
  | cons t rest =>
    unfold readFollows
    cases follows : t.follow? with
    | none => rfl
    | some follow =>
      have weaker := stops.2 follow follows
      simp only [if_pos weaker]

/-- A token spelled as a word is that keyword. -/
theorem isWord_of_spelling {t : Token} {word : String} (spelled : t.spelling = keyword word) :
    t.kind = .word ∧ upperAscii t.text = word := by
  unfold Token.spelling at spelled
  split at spelled
  · next isWord => exact ⟨isWord, (Prod.mk.inj spelled).2⟩
  · next other => exact absurd (Prod.mk.inj spelled).1 other

/-- A token spelled as a symbol is that symbol. -/
theorem isSymbol_of_spelling {t : Token} {s : String} (spelled : t.spelling = symbol s) :
    t.kind = .symbol ∧ t.text = s := by
  unfold Token.spelling at spelled
  split at spelled
  · next isWord => cases (Prod.mk.inj spelled).1
  · next other => exact ⟨(Prod.mk.inj spelled).1, (Prod.mk.inj spelled).2⟩

/-- A keyword is that keyword and no other. -/
theorem isWord_eq {t : Token} {word : String} (spelled : t.spelling = keyword word)
    (other : String) : t.isWord other = (word == other) := by
  obtain ⟨kind, text⟩ := isWord_of_spelling spelled
  simp [Token.isWord, kind, text]

/-- What follows an operand with a keyword is what the keyword says. -/
theorem follow?_of_keyword {t : Token} {word : String} (spelled : t.spelling = keyword word) :
    t.follow? = wordFollow word := by
  obtain ⟨kind, text⟩ := isWord_of_spelling spelled
  simp [Token.follow?, kind, text]

/-- What follows an operand with a symbol is what the symbol says. -/
theorem follow?_of_symbol {t : Token} {s : String} (spelled : t.spelling = symbol s) :
    t.follow? = symbolFollow s := by
  obtain ⟨kind, text⟩ := isSymbol_of_spelling spelled
  simp [Token.follow?, kind, text]

/-- A mark is read as its parameter. -/
theorem readExpr_parameter {m : Token} (kind : m.kind = .parameter)
    (range : 1 ≤ m.slot ∧ m.slot ≤ 32766) {fuel level : Nat} {rest : List Token}
    (stops : Stops level rest) (fueled : 2 ≤ fuel) :
    readExpr fuel level (m :: rest) = .ok (.parameter m.slot, rest) := by
  obtain ⟨fuel, rfl⟩ := Nat.exists_eq_add_of_le' fueled
  have operand : readOperand (fuel + 1) (m :: rest) = .ok (.parameter m.slot, rest) := by
    simp only [readOperand, kind, if_pos range]
  rw [readExpr, operand]
  exact readFollows_of_stops (by omega) stops

/-- An operator with two operands that is strong enough takes the next expression. -/
theorem readFollows_binary {t : Token} {op : BinaryOp} {strength : Nat}
    (follows : t.follow? = some (.binary op strength)) {fuel level : Nat} (le : level ≤ strength)
    (e : Expr) (rest : List Token) :
    readFollows (fuel + 1) level e (t :: rest) =
      (readExpr fuel (strength + 1) rest >>= fun b =>
        readFollows fuel level (.binary op e b.1) b.2) := by
  have strong : ¬ (Follow.binary op strength).strength < level := Nat.not_lt.2 le
  conv => lhs; unfold readFollows
  simp only [follows, if_neg strong]

/-- The word for identity reads what is identical. -/
theorem readFollows_is {t : Token} (spelled : t.spelling = keyword "IS") {fuel level : Nat}
    (le : level ≤ 4) (e : Expr) (rest : List Token) :
    readFollows (fuel + 1) level e (t :: rest) =
      (readIdentity fuel e rest >>= fun b => readFollows fuel level b.1 b.2) := by
  have follows : t.follow? = some .is := follow?_of_keyword spelled
  have strong : ¬ Follow.is.strength < level := Nat.not_lt.2 le
  conv => lhs; unfold readFollows
  simp only [follows, if_neg strong]

/-- A token that is no word is no keyword. -/
theorem isWord_of_kind {t : Token} (other : t.kind ≠ .word) (word : String) :
    t.isWord word = false := by
  simp [Token.isWord, other]

/-- The ways to write identity behind its word, told or denied. -/
theorem words_of_identity {words : List Spelling} {op : BinaryOp}
    (known : (keyword "IS" :: words, .relation op) ∈ Comparator.table) :
    (words = [] ∧ op = .is) ∨ (words = [keyword "NOT"] ∧ op = .isNot) ∨
      (words = [keyword "DISTINCT", keyword "FROM"] ∧ op = .isNot) ∨
      (words = [keyword "NOT", keyword "DISTINCT", keyword "FROM"] ∧ op = .is) := by
  simpa [Comparator.table, keyword, symbol] using known

/-- Identity with what does not begin with a keyword is read with it. -/
theorem readIdentity_operand {m : Token} (other : m.kind ≠ .word) {words : List Token}
    {op : BinaryOp}
    (known : (keyword "IS" :: words.map Token.spelling, .relation op) ∈ Comparator.table)
    (fuel : Nat) (e : Expr) (rest : List Token) :
    readIdentity (fuel + 1) e (words ++ m :: rest) =
      (readExpr fuel 5 (m :: rest) >>= fun b => .ok (.binary op e b.1, b.2)) := by
  have noWord := isWord_of_kind other
  rcases words_of_identity known with ⟨spelled, rfl⟩ | ⟨spelled, rfl⟩ | ⟨spelled, rfl⟩ | ⟨spelled, rfl⟩
  · obtain rfl := List.map_eq_nil_iff.1 spelled
    simp [readIdentity, skipWord?, noWord]
  · obtain ⟨t, ts, rfl, first, spelled⟩ := List.map_eq_cons_iff.1 spelled
    obtain rfl := List.map_eq_nil_iff.1 spelled
    simp [readIdentity, skipWord?, isWord_eq first, noWord]
  · obtain ⟨t, ts, rfl, first, spelled⟩ := List.map_eq_cons_iff.1 spelled
    obtain ⟨u, us, rfl, second, spelled⟩ := List.map_eq_cons_iff.1 spelled
    obtain rfl := List.map_eq_nil_iff.1 spelled
    simp [readIdentity, skipWord?, expectWord, isWord_eq first, isWord_eq second, bind, Except.bind]
  · obtain ⟨t, ts, rfl, first, spelled⟩ := List.map_eq_cons_iff.1 spelled
    obtain ⟨u, us, rfl, second, spelled⟩ := List.map_eq_cons_iff.1 spelled
    obtain ⟨v, vs, rfl, third, spelled⟩ := List.map_eq_cons_iff.1 spelled
    obtain rfl := List.map_eq_nil_iff.1 spelled
    simp [readIdentity, skipWord?, expectWord, isWord_eq first, isWord_eq second, isWord_eq third,
      bind, Except.bind]

/-- A comparison begins with a symbol that is stronger than a negation, or with the word for
identity. -/
theorem head_of_relation {operator : List Spelling} {op : BinaryOp}
    (known : (operator, .relation op) ∈ Comparator.table) :
    (∃ s strength, operator = [symbol s] ∧ symbolFollow s = some (.binary op strength) ∧
      3 ≤ strength) ∨ operator.head? = some (keyword "IS") := by
  have heads : ∀ entry ∈ Comparator.table, ∀ op, entry.2 = .relation op →
      (∃ s strength, entry.1 = [symbol s] ∧ symbolFollow s = some (.binary op strength) ∧
        3 ≤ strength) ∨ entry.1.head? = some (keyword "IS") := by
    intro entry mem op written
    simp only [Comparator.table, List.mem_cons, List.not_mem_nil, or_false] at mem
    rcases mem with rfl | rfl | rfl | rfl | rfl | rfl | rfl | rfl | rfl | rfl | rfl | rfl | rfl |
      rfl | rfl | rfl | rfl | rfl <;> cases written
    all_goals first
      | exact .inr rfl
      | exact .inl ⟨_, _, rfl, rfl, by decide⟩
  exact heads _ known op rfl

/-- What a comparison compares with is read as a whole, and reading goes on behind it. -/
theorem readFollows_comparison {operator : List Token} {op : BinaryOp} {m : Token}
    (known : (operator.map Token.spelling, .relation op) ∈ Comparator.table)
    (other : m.kind ≠ .word) {level : Nat} (le : level ≤ 3) (fuel : Nat) (e : Expr)
    (rest : List Token) :
    ∃ less higher, fuel ≤ less ∧ 3 ≤ higher ∧
      readFollows (fuel + 2) level e (operator ++ m :: rest) =
        (readExpr less higher (m :: rest) >>= fun b =>
          readFollows (fuel + 1) level (.binary op e b.1) b.2) := by
  rcases head_of_relation known with ⟨s, strength, spelled, follows, strong⟩ | head
  · obtain ⟨t, ts, rfl, first, spelled⟩ := List.map_eq_cons_iff.1 spelled
    obtain rfl := List.map_eq_nil_iff.1 spelled
    have follows' : t.follow? = some (.binary op strength) := by
      rw [follow?_of_symbol first, follows]
    exact ⟨fuel + 1, strength + 1, by omega, by omega,
      readFollows_binary follows' (by omega) e (m :: rest)⟩
  · obtain ⟨t, words, rfl⟩ : ∃ t words, operator = t :: words := by
      cases operator with
      | nil => cases head
      | cons t words => exact ⟨t, words, rfl⟩
    have first : t.spelling = keyword "IS" := by simpa using head
    have written : (keyword "IS" :: words.map Token.spelling, .relation op) ∈
        Comparator.table := by
      rw [← first]
      exact known
    refine ⟨fuel, 5, by omega, by omega, ?_⟩
    rw [List.cons_append, readFollows_is first (by omega), readIdentity_operand other written]
    cases readExpr fuel 5 (m :: rest) <;> rfl

/-- A comparison is read as one, and reading goes on behind it. -/
theorem readFollows_relation {operator : List Token} {op : BinaryOp} {m : Token}
    (known : (operator.map Token.spelling, .relation op) ∈ Comparator.table)
    (kind : m.kind = .parameter) (range : 1 ≤ m.slot ∧ m.slot ≤ 32766) {fuel level : Nat}
    (fueled : 3 ≤ fuel) {rest : List Token} (stops : Stops 3 rest) (le : level ≤ 3) (e : Expr) :
    readFollows (fuel + 1) level e (operator ++ m :: rest) =
      readFollows fuel level (.binary op e (.parameter m.slot)) rest := by
  obtain ⟨fuel, rfl⟩ := Nat.exists_eq_add_of_le' (show 1 ≤ fuel by omega)
  obtain ⟨less, higher, enough, high, read⟩ :=
    readFollows_comparison known (by rw [kind]; decide) le fuel e rest
  rw [read, readExpr_parameter kind range (stops.mono high) (by omega)]
  rfl

/-- What follows an operand with the word of a test. -/
def Comparator.follow : Comparator → Follow
  | .relation op => .binary op 4
  | .pattern kind _ => .pattern kind
  | .member _ => .member

/-- Whether a test is negated. -/
def Comparator.negated : Comparator → Bool
  | .relation _ => false
  | .pattern _ negated | .member negated => negated

/-- A test is read as one, its negation before it, and reading goes on behind it. -/
theorem readFollows_test {operator : List Token} {comparator : Comparator}
    (known : (operator.map Token.spelling, comparator) ∈ Comparator.table)
    (test : ∀ op, comparator ≠ .relation op) {level : Nat} (le : level ≤ 3) :
    ∃ t : Token, t.follow? = some comparator.follow ∧ ∀ fuel e rest,
      readFollows (fuel + 1) level e (operator ++ rest) =
        (readTest fuel comparator.negated e (t :: rest) >>= fun b =>
          readFollows fuel level b.1 b.2) := by
  have written : ∀ entry ∈ Comparator.table, (∀ op, entry.2 ≠ .relation op) →
      ∃ word, wordFollow word = some entry.2.follow ∧ word ≠ "NULL" ∧
        ((entry.1 = [keyword word] ∧ entry.2.negated = false) ∨
          (entry.1 = [keyword "NOT", keyword word] ∧ entry.2.negated = true)) := by
    intro entry mem test
    simp only [Comparator.table, List.mem_cons, List.not_mem_nil, or_false] at mem
    rcases mem with rfl | rfl | rfl | rfl | rfl | rfl | rfl | rfl | rfl | rfl | rfl | rfl | rfl |
      rfl | rfl | rfl | rfl | rfl
    all_goals first
      | exact absurd rfl (test _)
      | exact ⟨_, rfl, by decide, .inl ⟨rfl, rfl⟩⟩
      | exact ⟨_, rfl, by decide, .inr ⟨rfl, rfl⟩⟩
  have weak : ¬ comparator.follow.strength < level := by
    cases comparator with
    | relation op => exact absurd rfl (test op)
    | pattern kind negated => exact Nat.not_lt.2 (Nat.le_succ_of_le le)
    | member negated => exact Nat.not_lt.2 (Nat.le_succ_of_le le)
  obtain ⟨word, follows, other, ⟨spelled, plain⟩ | ⟨spelled, negated⟩⟩ := written _ known test
  · obtain ⟨t, ts, rfl, first, spelled⟩ := List.map_eq_cons_iff.1 spelled
    obtain rfl := List.map_eq_nil_iff.1 spelled
    have follows' : t.follow? = some comparator.follow := by rw [follow?_of_keyword first, follows]
    refine ⟨t, follows', ?_⟩
    intro fuel e rest
    simp only [List.singleton_append, plain]
    conv => lhs; unfold readFollows
    simp only [follows', if_neg weak]
    cases comparator with
    | relation op => exact absurd rfl (test op)
    | pattern kind negated => rfl
    | member negated => rfl
  · obtain ⟨n, ts, rfl, first, spelled⟩ := List.map_eq_cons_iff.1 spelled
    obtain ⟨t, ts, rfl, second, spelled⟩ := List.map_eq_cons_iff.1 spelled
    obtain rfl := List.map_eq_nil_iff.1 spelled
    refine ⟨t, by rw [follow?_of_keyword second, follows], ?_⟩
    intro fuel e rest
    have negation : n.follow? = some .not := follow?_of_keyword first
    have strong : ¬ Follow.not.strength < level := Nat.not_lt.2 le
    have present : t.isWord "NULL" = false := by simpa [isWord_eq second] using other
    simp only [List.cons_append, List.nil_append, negated]
    conv => lhs; unfold readFollows
    simp only [negation, if_neg strong, present, Bool.false_eq_true, if_false]

/-- Nothing is escaped in what stops a reading. -/
theorem skipWord?_escape {level : Nat} {rest : List Token} (stops : Stops level rest) :
    skipWord? "ESCAPE" rest = none := by
  cases rest with
  | nil => rfl
  | cons t rest => simp [skipWord?, stops.1]

/-- A pattern that is a mark is read to its end. -/
theorem readTest_pattern {t m : Token} {pattern : PatternKind}
    (follows : t.follow? = some (.pattern pattern)) (kind : m.kind = .parameter)
    (range : 1 ≤ m.slot ∧ m.slot ≤ 32766) {fuel : Nat} (fueled : 3 ≤ fuel) {rest : List Token}
    (stops : Stops 3 rest) (negated : Bool) (e : Expr) :
    readTest fuel negated e (t :: m :: rest) =
      .ok (Expr.negatedIf negated (.pattern pattern e (.parameter m.slot) none), rest) := by
  obtain ⟨fuel, rfl⟩ := Nat.exists_eq_add_of_le' fueled
  have mark := readExpr_parameter kind range (stops.mono (show 3 ≤ 5 by decide))
    (show 2 ≤ fuel + 2 by omega)
  simp [readTest, follows, mark, skipWord?_escape stops, bind, Except.bind]

/-- A comma or a closing parenthesis stops every reading. -/
theorem stops_symbol {t : Token} {s : String} (isSymbol : t.isSymbol s = true)
    (ends : symbolFollow s = none) (level : Nat) (rest : List Token) : Stops level (t :: rest) := by
  simp only [Token.isSymbol, Bool.and_eq_true, beq_iff_eq] at isSymbol
  obtain ⟨kind, text⟩ := isSymbol
  refine ⟨isWord_of_kind (by rw [kind]; decide) "ESCAPE", ?_⟩
  intro follow follows
  rw [Token.follow?, kind] at follows
  simp only [text, ends] at follows
  cases follows

/-- What is some symbol is a symbol. -/
theorem kind_of_isSymbol {t : Token} {s : String} (isSymbol : t.isSymbol s = true) :
    t.kind = .symbol := by
  simp only [Token.isSymbol, Bool.and_eq_true, beq_iff_eq] at isSymbol
  exact isSymbol.1

/-- What is some keyword is a word. -/
theorem kind_of_isWord {t : Token} {word : String} (isWord : t.isWord word = true) :
    t.kind = .word := by
  simp only [Token.isWord, Bool.and_eq_true, beq_iff_eq] at isWord
  exact isWord.1

/-- A symbol is that symbol and no other. -/
theorem isSymbol_eq {t : Token} {s : String} (isSymbol : t.isSymbol s = true) (other : String) :
    t.isSymbol other = (s == other) := by
  simp only [Token.isSymbol, Bool.and_eq_true, beq_iff_eq] at isSymbol
  simp [Token.isSymbol, isSymbol]

/-- A parameter is no symbol. -/
theorem isSymbol_parameter {m : Token} (kind : m.kind = .parameter) (s : String) :
    m.isSymbol s = false := by
  simp [Token.isSymbol, kind]

/-- Marks do not begin with a closing parenthesis. -/
theorem Marks.skipSymbol?_closing {ts : List Token} {es : List Expr} (marks : Marks ts es)
    (rest : List Token) : skipSymbol? ")" (ts ++ rest) = none := by
  cases marks with
  | one kind => simp [skipSymbol?, isSymbol_parameter kind]
  | more kind _ _ => simp [skipSymbol?, isSymbol_parameter kind]

/-- Marks up to a closing parenthesis are read as their parameters. -/
theorem readExprs_marks {ts : List Token} {es : List Expr} (marks : Marks ts es)
    (range : InRange ts) {fuel : Nat} (fueled : ts.length + 2 ≤ fuel) {closing : Token}
    (closes : closing.isSymbol ")" = true) (rest : List Token) :
    readExprs fuel (ts ++ closing :: rest) = .ok (es, closing :: rest) := by
  induction marks generalizing fuel with
  | @one m kind =>
    obtain ⟨fuel, rfl⟩ := Nat.exists_eq_add_of_le' fueled
    have mark := readExpr_parameter kind (range m List.mem_cons_self kind)
      (stops_symbol closes rfl 0 rest) (show 2 ≤ fuel + 2 by omega)
    have last : skipSymbol? "," (closing :: rest) = none := by
      simp [skipSymbol?, isSymbol_eq closes]
    simp [readExprs, mark, last, bind, Except.bind]
  | @more m comma ts es kind between _ ih =>
    simp only [List.length_cons] at fueled
    obtain ⟨fuel, rfl⟩ := Nat.exists_eq_add_of_le' (show 1 ≤ fuel by omega)
    have mark := readExpr_parameter kind (range m List.mem_cons_self kind)
      (stops_symbol between rfl 0 (ts ++ closing :: rest)) (show 2 ≤ fuel by omega)
    have others : InRange ts := fun t mem =>
      range t (List.mem_cons_of_mem m (List.mem_cons_of_mem comma mem))
    have behind := ih others (show ts.length + 2 ≤ fuel by omega)
    simp [readExprs, mark, skipSymbol?, between, behind, bind, Except.bind]

/-- Membership among marks is read to its closing parenthesis. -/
theorem readTest_member {t opening closing : Token} (follows : t.follow? = some .member)
    (opens : opening.isSymbol "(" = true) {ts : List Token} {es : List Expr} (marks : Marks ts es)
    (range : InRange ts) (closes : closing.isSymbol ")" = true) {fuel : Nat}
    (fueled : ts.length + 3 ≤ fuel) (negated : Bool) (e : Expr) (rest : List Token) :
    readTest fuel negated e (t :: opening :: (ts ++ closing :: rest)) =
      .ok (Expr.negatedIf negated (.member e es), rest) := by
  obtain ⟨fuel, rfl⟩ := Nat.exists_eq_add_of_le' (show 1 ≤ fuel by omega)
  have inside := readExprs_marks marks range (show ts.length + 2 ≤ fuel by omega) closes rest
  have present := marks.skipSymbol?_closing (closing :: rest)
  simp [readTest, follows, expectSymbol, opens, present, inside, closes, bind, Except.bind]

/-- Membership among nothing is read as what it always is. -/
theorem readTest_nothing {t opening closing : Token} (follows : t.follow? = some .member)
    (opens : opening.isSymbol "(" = true) (closes : closing.isSymbol ")" = true) {fuel : Nat}
    (fueled : 1 ≤ fuel) (negated : Bool) (e : Expr) (rest : List Token) :
    readTest fuel negated e (t :: opening :: closing :: rest) =
      .ok (.literal (.integer (if negated then 1 else 0)), rest) := by
  obtain ⟨fuel, rfl⟩ := Nat.exists_eq_add_of_le' fueled
  simp [readTest, follows, expectSymbol, skipSymbol?, opens, closes, bind, Except.bind]

/-- What begins a test is no parenthesis and no point. -/
theorem skipSymbol?_operator {operator : List Token} {comparator : Comparator}
    (known : (operator.map Token.spelling, comparator) ∈ Comparator.table) {s : String}
    (other : s ∈ ["(", "."]) (rest : List Token) : skipSymbol? s (operator ++ rest) = none := by
  have heads : ∀ entry ∈ Comparator.table, ∀ s ∈ ["(", "."],
      entry.1 ≠ [] ∧ entry.1.head? ≠ some (symbol s) := by
    decide
  obtain ⟨present, head⟩ := heads _ known s other
  cases operator with
  | nil => exact absurd rfl present
  | cons t operator =>
    have distinct : t.isSymbol s = false := by
      rw [Bool.eq_false_iff]
      intro isSymbol
      simp only [Token.isSymbol, Bool.and_eq_true, beq_iff_eq] at isSymbol
      refine head ?_
      simp [Token.spelling, isSymbol, symbol]
    simp [skipSymbol?, distinct]

/-- A column before an operator is read as one. -/
theorem readExpr_column {name : Token} (column : name.IsColumn) {operator : List Token}
    {comparator : Comparator}
    (known : (operator.map Token.spelling, comparator) ∈ Comparator.table) (fuel level : Nat)
    (rest : List Token) :
    readExpr (fuel + 3) level (name :: (operator ++ rest)) =
      readFollows (fuel + 2) level (columnOf name) (operator ++ rest) := by
  obtain ⟨kind, free⟩ := column
  have notWord : ∀ word ∈ ["NOT", "NULL", "CASE"], name.isWord word = false := by
    intro word mem
    rw [Bool.eq_false_iff]
    intro isWord
    simp only [Token.isWord, Bool.and_eq_true, beq_iff_eq] at isWord
    have reserved : ∀ word ∈ ["NOT", "NULL", "CASE"], reservedWords.contains word = true := by
      decide
    rw [isReserved, isWord.2, reserved word mem] at free
    cases free
  have call : skipSymbol? "(" (operator ++ rest) = none :=
    skipSymbol?_operator known (by decide) rest
  have point : skipSymbol? "." (operator ++ rest) = none :=
    skipSymbol?_operator known (by decide) rest
  have operand : readOperand (fuel + 2) (name :: (operator ++ rest)) =
      .ok (columnOf name, operator ++ rest) := by
    simp [readOperand, readNamed, kind, free, notWord, call, point]
  rw [readExpr, operand]
  rfl

namespace Level

/-- The weakest operators that a reading may take for an expression of a level to be one operand
of it. -/
def bound : Level → Nat
  | .term => 3
  | .conjunction => 2
  | .disjunction => 1

/-- The strength that an operator behind an expression of a level stays below. -/
def ceiling : Level → Nat
  | .term | .conjunction => 3
  | .disjunction => 2

end Level

/-- Among the tokens of a part are those of the whole. -/
theorem InRange.sub {ts us : List Token} (range : InRange us) (sub : ts ⊆ us) : InRange ts :=
  fun t mem => range t (sub mem)

/-- A closing parenthesis is expected where one stands. -/
theorem expectSymbol_cons {t : Token} {s : String} (isSymbol : t.isSymbol s = true)
    (rest : List Token) : expectSymbol s (t :: rest) = .ok rest := by
  rw [expectSymbol, if_pos isSymbol]

/-- What stands in parentheses is read as an operand. -/
theorem readOperand_group {opening closing : Token} (opens : opening.isSymbol "(" = true)
    (closes : closing.isSymbol ")" = true) {fuel : Nat} {ts : List Token} {e : Expr}
    {rest : List Token}
    (inside : readExpr fuel 0 (ts ++ closing :: rest) = .ok (e, closing :: rest)) :
    readOperand (fuel + 1) (opening :: (ts ++ closing :: rest)) = .ok (e, rest) := by
  have kind := kind_of_isSymbol opens
  simp [readOperand, kind, opens, inside, expectSymbol_cons closes, bind, Except.bind]

/-- A negation is read as an operand. -/
theorem readOperand_negation {word : Token} (isNot : word.isWord "NOT" = true) {fuel : Nat}
    {ts : List Token} {e : Expr} {rest : List Token}
    (inside : readExpr fuel 3 ts = .ok (e, rest)) :
    readOperand (fuel + 1) (word :: ts) = .ok (.unary .not e, rest) := by
  have kind := kind_of_isWord isNot
  simp [readOperand, kind, isNot, inside, bind, Except.bind]

/-- A keyword of logic joins two operands. -/
theorem follow?_of_isWord {t : Token} {word : String} (isWord : t.isWord word = true) :
    t.follow? = wordFollow word := by
  simp only [Token.isWord, Bool.and_eq_true, beq_iff_eq] at isWord
  simp [Token.follow?, isWord]

/-- A keyword of logic stops whatever binds more strongly. -/
theorem stops_word {t : Token} {word : String} {follow : Follow} (isWord : t.isWord word = true)
    (other : word ≠ "ESCAPE") (follows : wordFollow word = some follow) {level : Nat}
    (weak : follow.strength < level) (rest : List Token) : Stops level (t :: rest) := by
  constructor
  · simp only [Token.isWord, Bool.and_eq_true, beq_iff_eq] at isWord
    simpa [Token.isWord, isWord] using other
  · intro found at'
    rw [follow?_of_isWord isWord, follows] at at'
    obtain rfl := Option.some.inj at'
    exact weak

/-- Tokens are read as an expression that is an operand of a level, and reading goes on behind
them with most of its fuel. -/
def IsRead (L : Level) (ts : List Token) (e : Expr) : Prop :=
  InRange ts → ∀ ⦃fuel level : Nat⦄ ⦃rest : List Token⦄, level ≤ L.bound → Stops L.ceiling rest →
    2 * ts.length + 4 ≤ fuel → ∃ left, fuel ≤ left + 2 * ts.length ∧
      readExpr fuel level (ts ++ rest) = readFollows left level e rest

namespace IsRead

section Comparison

variable {name m opening closing : Token} {operator us : List Token} {negated : Bool}

/-- The comparison of a column with a mark is read. -/
theorem relation {op : BinaryOp} (column : name.IsColumn)
    (known : (operator.map Token.spelling, .relation op) ∈ Comparator.table)
    (kind : m.kind = .parameter) :
    IsRead .term (name :: operator ++ [m]) (.binary op (columnOf name) (.parameter m.slot)) := by
  intro range fuel level rest le stops fueled
  simp only [List.length_append, List.length_cons, List.length_nil] at fueled ⊢
  obtain ⟨fuel, rfl⟩ := Nat.exists_eq_add_of_le' (show 3 ≤ fuel by omega)
  have mark := range m (by simp) kind
  refine ⟨fuel + 1, by omega, ?_⟩
  rw [List.append_assoc, List.cons_append, readExpr_column column known,
    List.singleton_append, readFollows_relation known kind mark (by omega) stops le]

/-- The match of a column with a mark is read. -/
theorem pattern {pattern : PatternKind} (column : name.IsColumn)
    (known : (operator.map Token.spelling, .pattern pattern negated) ∈ Comparator.table)
    (kind : m.kind = .parameter) :
    IsRead .term (name :: operator ++ [m])
      (Expr.negatedIf negated (.pattern pattern (columnOf name) (.parameter m.slot) none)) := by
  intro range fuel level rest le stops fueled
  simp only [List.length_append, List.length_cons, List.length_nil] at fueled ⊢
  obtain ⟨fuel, rfl⟩ := Nat.exists_eq_add_of_le' (show 3 ≤ fuel by omega)
  have mark := range m (by simp) kind
  obtain ⟨t, follows, test⟩ := readFollows_test known (by simp) le
  have read := readTest_pattern follows kind mark (show 3 ≤ fuel + 1 by omega) stops negated
    (columnOf name)
  refine ⟨fuel + 1, by omega, ?_⟩
  rw [List.append_assoc, List.cons_append, readExpr_column column known,
    List.singleton_append, test]
  simp only [Comparator.negated, read]
  rfl

/-- Membership of a column among marks is read. -/
theorem member {es : List Expr} (column : name.IsColumn)
    (known : (operator.map Token.spelling, .member negated) ∈ Comparator.table)
    (opens : opening.isSymbol "(" = true) (marks : Marks us es)
    (closes : closing.isSymbol ")" = true) :
    IsRead .term (name :: operator ++ opening :: us ++ [closing])
      (Expr.negatedIf negated (.member (columnOf name) es)) := by
  intro range fuel level rest le stops fueled
  simp only [List.length_append, List.length_cons, List.length_nil] at fueled ⊢
  obtain ⟨fuel, rfl⟩ := Nat.exists_eq_add_of_le' (show 3 ≤ fuel by omega)
  obtain ⟨t, follows, test⟩ := readFollows_test known (by simp) le
  have inside : InRange us := range.sub (by intro t mem; simp [mem])
  have read := readTest_member follows opens marks inside closes
    (show us.length + 3 ≤ fuel + 1 by omega) negated (columnOf name) rest
  refine ⟨fuel + 1, by omega, ?_⟩
  have written : name :: operator ++ opening :: us ++ [closing] ++ rest =
      name :: (operator ++ opening :: (us ++ closing :: rest)) := by simp
  rw [written, readExpr_column column known, test]
  simp only [Comparator.negated, read]
  rfl

/-- Membership of a column among nothing is read. -/
theorem nothing (column : name.IsColumn)
    (known : (operator.map Token.spelling, .member negated) ∈ Comparator.table)
    (opens : opening.isSymbol "(" = true) (closes : closing.isSymbol ")" = true) :
    IsRead .term (name :: operator ++ [opening, closing])
      (.literal (.integer (if negated then 1 else 0))) := by
  intro range fuel level rest le stops fueled
  simp only [List.length_append, List.length_cons, List.length_nil] at fueled ⊢
  obtain ⟨fuel, rfl⟩ := Nat.exists_eq_add_of_le' (show 3 ≤ fuel by omega)
  obtain ⟨t, follows, test⟩ := readFollows_test known (by simp) le
  have read := readTest_nothing follows opens closes (show 1 ≤ fuel + 1 by omega) negated
    (columnOf name) rest
  refine ⟨fuel + 1, by omega, ?_⟩
  have written : name :: operator ++ [opening, closing] ++ rest =
      name :: (operator ++ opening :: closing :: rest) := by simp
  rw [written, readExpr_column column known, test]
  simp only [Comparator.negated, read]
  rfl

end Comparison

variable {ts us : List Token} {e a b : Expr}

/-- What is read whole is read in parentheses. -/
theorem group {opening closing : Token} (opens : opening.isSymbol "(" = true)
    (read : IsRead .disjunction us e) (closes : closing.isSymbol ")" = true) :
    IsRead .term (opening :: us ++ [closing]) e := by
  intro range fuel level rest le stops fueled
  simp only [List.length_append, List.length_cons, List.length_nil] at fueled ⊢
  obtain ⟨fuel, rfl⟩ := Nat.exists_eq_add_of_le' (show 2 ≤ fuel by omega)
  have range : InRange us := range.sub (by intro t mem; simp [mem])
  have closed : ∀ level, Stops level (closing :: rest) := fun level =>
    stops_symbol closes rfl level rest
  obtain ⟨left, enough, inside⟩ := read range (Nat.zero_le _) (closed _)
    (show 2 * us.length + 4 ≤ fuel by omega)
  rw [readFollows_of_stops (by omega) (closed 0)] at inside
  refine ⟨fuel + 1, by omega, ?_⟩
  have written : opening :: us ++ [closing] ++ rest = opening :: (us ++ closing :: rest) := by
    simp
  rw [written, readExpr, readOperand_group opens closes inside]
  rfl

/-- An operand is read behind its negation. -/
theorem negation {word : Token} (isNot : word.isWord "NOT" = true) (read : IsRead .term us e) :
    IsRead .term (word :: us) (.unary .not e) := by
  intro range fuel level rest le stops fueled
  simp only [List.length_cons] at fueled ⊢
  obtain ⟨fuel, rfl⟩ := Nat.exists_eq_add_of_le' (show 2 ≤ fuel by omega)
  have range : InRange us := range.sub (by intro t mem; simp [mem])
  obtain ⟨left, enough, inside⟩ := read range (show 3 ≤ Level.term.bound by decide) stops
    (show 2 * us.length + 4 ≤ fuel by omega)
  have behind : readFollows left 3 e rest = .ok (e, rest) :=
    readFollows_of_stops (by omega) stops
  rw [behind] at inside
  refine ⟨fuel + 1, by omega, ?_⟩
  rw [List.cons_append, readExpr, readOperand_negation isNot inside]
  rfl

/-- What is an operand of a level is one of every weaker level. -/
theorem mono {L M : Level} (read : IsRead L ts e) (bound : M.bound ≤ L.bound)
    (ceiling : M.ceiling ≤ L.ceiling) : IsRead M ts e :=
  fun range _ _ _ le stops fueled =>
    read range (Nat.le_trans le bound) (stops.mono ceiling) fueled

/-- A chain goes on with a word that is as strong as its level and one more operand, of the level
above. -/
theorem chain {L M : Level} {t : Token} {word : String} {op : BinaryOp} (first : IsRead L ts a)
    (isWord : t.isWord word = true) (other : word ≠ "ESCAPE")
    (follows : wordFollow word = some (.binary op L.bound)) (second : IsRead M us b)
    (ceiling : L.ceiling = L.bound + 1) (bound : M.bound = L.bound + 1)
    (above : L.ceiling ≤ M.ceiling) : IsRead L (ts ++ t :: us) (.binary op a b) := by
  intro range fuel level rest le stops fueled
  simp only [List.length_append, List.length_cons] at fueled ⊢
  have rangeFirst : InRange ts := range.sub (by intro t mem; simp [mem])
  have rangeSecond : InRange us := range.sub (by intro t mem; simp [mem])
  have weaker : (Follow.binary op L.bound).strength < L.ceiling := by
    rw [ceiling]
    exact Nat.lt_succ_self L.bound
  obtain ⟨left, enough, read⟩ := first rangeFirst le
    (stops_word isWord other follows weaker (us ++ rest))
    (show 2 * ts.length + 4 ≤ fuel by omega)
  obtain ⟨left, rfl⟩ := Nat.exists_eq_add_of_le' (show 1 ≤ left by omega)
  obtain ⟨left', enough', read'⟩ := second rangeSecond (Nat.le_of_eq bound.symm)
    (stops.mono above) (show 2 * us.length + 4 ≤ left by omega)
  have behind : readFollows left' (L.bound + 1) b rest = .ok (b, rest) :=
    readFollows_of_stops (by omega) (ceiling ▸ stops)
  rw [behind] at read'
  refine ⟨left, by omega, ?_⟩
  rw [List.append_assoc, List.cons_append, read,
    readFollows_binary ((follow?_of_isWord isWord).trans follows) le]
  exact congrArg (· >>= _) read'

end IsRead

/-- What the grammar takes for an expression is read as its operand, and reading goes on behind
it. -/
theorem Reads.isRead {L : Level} {ts : List Token} {e : Expr} (reads : Reads L ts e) :
    IsRead L ts e := by
  induction reads with
  | relation column known kind => exact .relation column known kind
  | pattern column known kind => exact .pattern column known kind
  | member column known opens marks closes => exact .member column known opens marks closes
  | nothing column known opens closes => exact .nothing column known opens closes
  | group opens _ closes read => exact .group opens read closes
  | negation isNot _ read => exact .negation isNot read
  | single _ read => exact read.mono (by decide) (by decide)
  | conjoined _ read => exact read.mono (by decide) (by decide)
  | and _ isWord _ first second =>
    exact first.chain isWord (by decide) rfl second (by decide) (by decide) (by decide)
  | or _ isWord _ first second =>
    exact first.chain isWord (by decide) rfl second (by decide) (by decide) (by decide)

/-- What the grammar takes for an expression is read as that very expression. -/
theorem Reads.readWhole {ts : List Token} {e : Expr} (reads : Reads .disjunction ts e)
    (range : InRange ts) {rest : List Token} (stops : Stops 0 rest) :
    Sql.readWhole (ts ++ rest) = .ok (e, rest) := by
  have fueled : 2 * ts.length + 4 ≤ exprFuel (ts ++ rest) := by
    simp only [exprFuel, List.length_append]
    omega
  obtain ⟨left, enough, read⟩ :=
    reads.isRead range (Nat.zero_le _) (stops.mono (Nat.zero_le _)) fueled
  rw [Sql.readWhole, read]
  refine readFollows_of_stops ?_ stops
  simp only [exprFuel, List.length_append] at enough
  omega

end Registrar.Sql
