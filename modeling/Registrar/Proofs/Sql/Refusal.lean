import Registrar.Proofs.Outcome
import Registrar.Proofs.Sql.Comparison

/-!
# Refused expressions

Membership asks for a parenthesis: a mark right behind `IN` is no expression.  `Stuck` says of the
beginning of an expression that it comes to such a mark by way of parentheses, negations and
operands; `Stuck.readWhole` says that the reader of statements then fails, whatever stands behind.
It fails likewise on what the grammar takes for an expression if this has a parameter with a number
that no statement may give.
-/

namespace Registrar.Sql

open Token

/-- The beginnings of expressions of a level that come to a mark right behind a test of
membership. -/
inductive Stuck : Level → List Token → Prop where
  | bare {name m : Token} {operator : List Token} {negated : Bool} : name.IsColumn →
      (operator.map Token.spelling, .member negated) ∈ Comparator.table → m.kind = .parameter →
      Stuck .term (name :: operator ++ [m])
  | group {opening : Token} {ts : List Token} : opening.isSymbol "(" = true →
      Stuck .disjunction ts → Stuck .term (opening :: ts)
  | negation {word : Token} {ts : List Token} : word.isWord "NOT" = true → Stuck .term ts →
      Stuck .term (word :: ts)
  | single {ts : List Token} : Stuck .term ts → Stuck .conjunction ts
  | and {word : Token} {ts us : List Token} {a : Expr} : Reads .conjunction ts a →
      word.isWord "AND" = true → Stuck .term us → Stuck .conjunction (ts ++ word :: us)
  | conjoined {ts : List Token} : Stuck .conjunction ts → Stuck .disjunction ts
  | or {word : Token} {ts us : List Token} {a : Expr} : Reads .disjunction ts a →
      word.isWord "OR" = true → Stuck .conjunction us → Stuck .disjunction (ts ++ word :: us)
  /-- What stands behind a beginning does not matter. -/
  | more {level : Level} {ts us : List Token} : Stuck level ts → Stuck level (ts ++ us)

/-- A mark in place of a list is refused. -/
theorem readTest_bare {t m : Token} (follows : t.follow? = some .member)
    (kind : m.kind = .parameter) (fuel : Nat) (negated : Bool) (e : Expr) (rest : List Token) :
    ∃ stop, readTest (fuel + 1) negated e (t :: m :: rest) = .error stop := by
  refine ⟨.here (m :: rest), ?_⟩
  simp [readTest, follows, expectSymbol, isSymbol_parameter kind, bind, Except.bind]

/-- No operand of a level is read from some tokens, whatever stands behind them. -/
def Fails (L : Level) (ts : List Token) : Prop :=
  ∀ ⦃fuel level : Nat⦄ (rest : List Token), level ≤ L.bound → 2 * ts.length + 4 ≤ fuel →
    ∃ stop, readExpr fuel level (ts ++ rest) = .error stop

/-- A mark with a number that no statement may give is not read. -/
theorem readExpr_beyond {m : Token} (kind : m.kind = .parameter)
    (beyond : ¬ (1 ≤ m.slot ∧ m.slot ≤ 32766)) (fuel level : Nat) (rest : List Token) :
    ∃ stop, readExpr fuel level (m :: rest) = .error stop := by
  rcases fuel with _ | _ | fuel
  · exact ⟨.here (m :: rest), by rw [readExpr]⟩
  · exact ⟨.here (m :: rest), by rw [readExpr, readOperand]; rfl⟩
  · refine ⟨.fault (Problem.parameterRange.at m.start), ?_⟩
    simp only [readExpr, readOperand, kind, if_neg beyond]
    rfl

/-- Marks are not all read if some number among them is one that no statement may give. -/
theorem readExprs_beyond {ts : List Token} {es : List Expr} (marks : Marks ts es)
    (beyond : ¬ InRange ts) {fuel : Nat} (fueled : ts.length + 1 ≤ fuel) (rest : List Token) :
    ∃ stop, readExprs fuel (ts ++ rest) = .error stop := by
  induction marks generalizing fuel with
  | @one m kind =>
    obtain ⟨fuel, rfl⟩ := Nat.exists_eq_add_of_le' (Nat.le_trans (Nat.le_add_left 1 _) fueled)
    have outside : ¬ (1 ≤ m.slot ∧ m.slot ≤ 32766) := by simpa [kind] using beyond
    rw [List.singleton_append, readExprs]
    exact error_bind (readExpr_beyond kind outside _ 0 rest)
  | @more m comma ts es kind between _ ih =>
    simp only [List.length_cons] at fueled
    obtain ⟨fuel, rfl⟩ := Nat.exists_eq_add_of_le' (show 1 ≤ fuel by omega)
    by_cases within : 1 ≤ m.slot ∧ m.slot ≤ 32766
    · have others : ¬ InRange ts := by
        simpa [kind, kind_of_isSymbol between, within] using beyond
      have mark := readExpr_parameter kind within (stops_symbol between rfl 0 (ts ++ rest))
        (show 2 ≤ fuel by omega)
      obtain ⟨stop, behind⟩ := ih others (show ts.length + 1 ≤ fuel by omega)
      refine ⟨stop, ?_⟩
      simp [readExprs, mark, skipSymbol?, between, behind, bind, Except.bind]
    · rw [List.cons_append, readExprs]
      exact error_bind (readExpr_beyond kind within fuel 0 _)

namespace Fails

section Comparison

variable {name m opening closing : Token} {operator us : List Token} {negated : Bool}

/-- Membership of a column in a mark fails. -/
theorem bare (column : name.IsColumn)
    (known : (operator.map Token.spelling, .member negated) ∈ Comparator.table)
    (kind : m.kind = .parameter) : Fails .term (name :: operator ++ [m]) := by
  intro fuel level rest le fueled
  simp only [List.length_append, List.length_cons, List.length_nil] at fueled
  obtain ⟨fuel, rfl⟩ := Nat.exists_eq_add_of_le' (show 3 ≤ fuel by omega)
  obtain ⟨t, follows, test⟩ := readFollows_test known (by simp) le
  rw [List.append_assoc, List.cons_append, readExpr_column column known,
    List.singleton_append, test]
  exact error_bind (readTest_bare follows kind fuel negated (columnOf name) rest)

/-- The comparison of a column with a mark out of range fails. -/
theorem relation {op : BinaryOp} (column : name.IsColumn)
    (known : (operator.map Token.spelling, .relation op) ∈ Comparator.table)
    (kind : m.kind = .parameter) (beyond : ¬ (1 ≤ m.slot ∧ m.slot ≤ 32766)) :
    Fails .term (name :: operator ++ [m]) := by
  intro fuel level rest le fueled
  simp only [List.length_append, List.length_cons, List.length_nil] at fueled
  obtain ⟨fuel, rfl⟩ := Nat.exists_eq_add_of_le' (show 3 ≤ fuel by omega)
  obtain ⟨less, higher, -, -, read⟩ :=
    readFollows_comparison known (by rw [kind]; decide) le fuel (columnOf name) rest
  rw [List.append_assoc, List.cons_append, readExpr_column column known,
    List.singleton_append, read]
  exact error_bind (readExpr_beyond kind beyond less higher rest)

/-- A pattern that is a mark out of range fails. -/
theorem pattern {shape : PatternKind} (column : name.IsColumn)
    (known : (operator.map Token.spelling, .pattern shape negated) ∈ Comparator.table)
    (kind : m.kind = .parameter) (beyond : ¬ (1 ≤ m.slot ∧ m.slot ≤ 32766)) :
    Fails .term (name :: operator ++ [m]) := by
  intro fuel level rest le fueled
  simp only [List.length_append, List.length_cons, List.length_nil] at fueled
  obtain ⟨fuel, rfl⟩ := Nat.exists_eq_add_of_le' (show 3 ≤ fuel by omega)
  obtain ⟨t, follows, test⟩ := readFollows_test known (by simp) le
  have follows : t.follow? = some (.pattern shape) := follows
  rw [List.append_assoc, List.cons_append, readExpr_column column known,
    List.singleton_append, test, readTest, follows]
  exact error_bind (error_bind (readExpr_beyond kind beyond fuel 5 rest))

/-- Membership among marks of which one is out of range fails. -/
theorem member {es : List Expr} (column : name.IsColumn)
    (known : (operator.map Token.spelling, .member negated) ∈ Comparator.table)
    (opens : opening.isSymbol "(" = true) (marks : Marks us es) (beyond : ¬ InRange us) :
    Fails .term (name :: operator ++ opening :: us ++ [closing]) := by
  intro fuel level rest le fueled
  simp only [List.length_append, List.length_cons, List.length_nil] at fueled
  obtain ⟨fuel, rfl⟩ := Nat.exists_eq_add_of_le' (show 3 ≤ fuel by omega)
  obtain ⟨t, follows, test⟩ := readFollows_test known (by simp) le
  have follows : t.follow? = some .member := follows
  have written : name :: operator ++ opening :: us ++ [closing] ++ rest =
      name :: (operator ++ opening :: (us ++ closing :: rest)) := by simp
  have present : skipSymbol? ")" (us ++ closing :: rest) = none := marks.skipSymbol?_closing _
  obtain ⟨stop, inside⟩ :=
    readExprs_beyond marks beyond (show us.length + 1 ≤ fuel by omega) (closing :: rest)
  refine ⟨stop, ?_⟩
  rw [written, readExpr_column column known, test, readTest, follows]
  simp [expectSymbol_cons opens, present, inside, bind, Except.bind]

end Comparison

variable {ts us : List Token}

/-- A parenthesis before what fails does. -/
theorem group {opening : Token} (opens : opening.isSymbol "(" = true)
    (fails : Fails .disjunction us) : Fails .term (opening :: us) := by
  intro fuel level rest le fueled
  simp only [List.length_cons] at fueled
  obtain ⟨fuel, rfl⟩ := Nat.exists_eq_add_of_le' (show 2 ≤ fuel by omega)
  obtain ⟨stop, refused⟩ := fails rest (Nat.zero_le _) (show 2 * us.length + 4 ≤ fuel by omega)
  have kind := kind_of_isSymbol opens
  refine ⟨stop, ?_⟩
  simp [readExpr, readOperand, kind, opens, refused, bind, Except.bind]

/-- The negation of what fails does. -/
theorem negation {word : Token} (isNot : word.isWord "NOT" = true) (fails : Fails .term us) :
    Fails .term (word :: us) := by
  intro fuel level rest le fueled
  simp only [List.length_cons] at fueled
  obtain ⟨fuel, rfl⟩ := Nat.exists_eq_add_of_le' (show 2 ≤ fuel by omega)
  obtain ⟨stop, refused⟩ := fails rest (show 3 ≤ Level.term.bound by decide)
    (show 2 * us.length + 4 ≤ fuel by omega)
  have kind := kind_of_isWord isNot
  refine ⟨stop, ?_⟩
  simp [readExpr, readOperand, kind, isNot, refused, bind, Except.bind]

/-- What fails as an operand fails as one of every weaker level. -/
theorem mono {L M : Level} (fails : Fails L ts) (bound : M.bound ≤ L.bound) : Fails M ts :=
  fun _ _ rest le fueled => fails rest (Nat.le_trans le bound) fueled

/-- A chain fails where its next operand does. -/
theorem chain {L M : Level} {t : Token} {word : String} {op : BinaryOp} {a : Expr}
    (first : IsRead L ts a) (range : InRange ts) (isWord : t.isWord word = true)
    (other : word ≠ "ESCAPE") (follows : wordFollow word = some (.binary op L.bound))
    (second : Fails M us) (ceiling : L.ceiling = L.bound + 1) (bound : M.bound = L.bound + 1) :
    Fails L (ts ++ t :: us) := by
  intro fuel level rest le fueled
  simp only [List.length_append, List.length_cons] at fueled
  have weaker : (Follow.binary op L.bound).strength < L.ceiling := by
    rw [ceiling]
    exact Nat.lt_succ_self L.bound
  obtain ⟨left, enough, read⟩ := first range le
    (stops_word isWord other follows weaker (us ++ rest))
    (show 2 * ts.length + 4 ≤ fuel by omega)
  obtain ⟨left, rfl⟩ := Nat.exists_eq_add_of_le' (show 1 ≤ left by omega)
  rw [List.append_assoc, List.cons_append, read,
    readFollows_binary ((follow?_of_isWord isWord).trans follows) le]
  exact error_bind (second rest (Nat.le_of_eq bound.symm)
    (show 2 * us.length + 4 ≤ left by omega))

/-- What stands behind tokens that fail does not matter. -/
theorem more {L : Level} (fails : Fails L ts) : Fails L (ts ++ us) := by
  intro fuel level rest le fueled
  rw [List.length_append] at fueled
  rw [List.append_assoc]
  exact fails (us ++ rest) le (by omega)

/-- No expression is read from tokens that fail. -/
theorem readWhole {L : Level} (fails : Fails L ts) (rest : List Token) :
    ∃ stop, Sql.readWhole (ts ++ rest) = .error stop := by
  have fueled : 2 * ts.length + 4 ≤ exprFuel (ts ++ rest) := by
    simp only [exprFuel, List.length_append]
    omega
  exact fails rest (Nat.zero_le _) fueled

end Fails

/-- There is no parameter among the tokens of an operator. -/
theorem inRange_operator {operator : List Token} {comparator : Comparator}
    (known : (operator.map Token.spelling, comparator) ∈ Comparator.table) : InRange operator := by
  have kinds : ∀ entry ∈ Comparator.table, ∀ spelling ∈ entry.1,
      spelling.1 = .word ∨ spelling.1 = .symbol := by
    decide
  intro t mem parameter
  have kind := kinds _ known t.spelling (List.mem_map_of_mem mem)
  rw [Token.spelling, parameter] at kind
  rcases kind with kind | kind <;> cases kind

/-- The mark of a comparison is out of range if anything in it is. -/
theorem beyond_of_comparison {name m : Token} {operator : List Token} {comparator : Comparator}
    (column : name.IsColumn)
    (known : (operator.map Token.spelling, comparator) ∈ Comparator.table)
    (kind : m.kind = .parameter) (beyond : ¬ InRange (name :: operator ++ [m])) :
    ¬ (1 ≤ m.slot ∧ m.slot ≤ 32766) := by
  simpa [column.1, inRange_operator known, kind] using beyond

/-- What the grammar takes for an expression is not read if a parameter is out of range. -/
theorem Reads.fails {L : Level} {ts : List Token} {e : Expr} (reads : Reads L ts e)
    (beyond : ¬ InRange ts) : Fails L ts := by
  induction reads with
  | relation column known kind =>
    exact .relation column known kind (beyond_of_comparison column known kind beyond)
  | pattern column known kind =>
    exact .pattern column known kind (beyond_of_comparison column known kind beyond)
  | @member name opening closing operator ts es negated column known opens marks closes =>
    have inside : ¬ InRange ts := by
      simpa [column.1, inRange_operator known, kind_of_isSymbol opens, kind_of_isSymbol closes]
        using beyond
    exact .member column known opens marks inside
  | nothing column known opens closes =>
    simp [column.1, inRange_operator known, kind_of_isSymbol opens, kind_of_isSymbol closes]
      at beyond
  | @group opening closing ts e opens _ closes fails =>
    have inside : ¬ InRange ts := by
      simpa [kind_of_isSymbol opens, kind_of_isSymbol closes] using beyond
    exact (Fails.group opens (fails inside)).more
  | @negation word ts e isNot _ fails =>
    have inside : ¬ InRange ts := by simpa [kind_of_isWord isNot] using beyond
    exact .negation isNot (fails inside)
  | single _ fails => exact (fails beyond).mono (by decide)
  | conjoined _ fails => exact (fails beyond).mono (by decide)
  | @and word ts us a b first isWord _ fails fails' =>
    by_cases range : InRange ts
    · have behind : ¬ InRange us := by simpa [kind_of_isWord isWord, range] using beyond
      exact .chain first.isRead range isWord (by decide) rfl (fails' behind) (by decide) (by decide)
    · exact (fails range).more
  | @or word ts us a b first isWord _ fails fails' =>
    by_cases range : InRange ts
    · have behind : ¬ InRange us := by simpa [kind_of_isWord isWord, range] using beyond
      exact .chain first.isRead range isWord (by decide) rfl (fails' behind) (by decide) (by decide)
    · exact (fails range).more

/-- Reading fails from a stuck beginning on. -/
theorem Stuck.fails {L : Level} {ts : List Token} (stuck : Stuck L ts) : Fails L ts := by
  induction stuck with
  | bare column known kind => exact .bare column known kind
  | group opens _ fails => exact .group opens fails
  | negation isNot _ fails => exact .negation isNot fails
  | single _ fails => exact fails.mono (by decide)
  | conjoined _ fails => exact fails.mono (by decide)
  | @and word ts us a reads isWord _ fails =>
    by_cases range : InRange ts
    · exact .chain reads.isRead range isWord (by decide) rfl fails (by decide) (by decide)
    · exact (reads.fails range).more
  | @or word ts us a reads isWord _ fails =>
    by_cases range : InRange ts
    · exact .chain reads.isRead range isWord (by decide) rfl fails (by decide) (by decide)
    · exact (reads.fails range).more
  | more _ fails => exact fails.more

/-- No expression is read from a stuck beginning. -/
theorem Stuck.readWhole {L : Level} {ts : List Token} (stuck : Stuck L ts) :
    ∃ stop, Sql.readWhole ts = .error stop := by
  obtain ⟨stop, refused⟩ := stuck.fails.readWhole []
  exact ⟨stop, by rwa [List.append_nil] at refused⟩

/-- A conjunction gets stuck where its second part does. -/
theorem Stuck.conjoin {ts us : List Token} {word : Token} {a : Expr}
    (first : Reads .conjunction ts a) (isWord : word.isWord "AND" = true)
    (second : Stuck .conjunction us) : Stuck .conjunction (ts ++ word :: us) := by
  generalize level : Level.conjunction = L at second
  induction second with
  | single term => exact .and first isWord term
  | @and word' vs ws c reads isWord' term _ =>
    obtain ⟨e, longer, -⟩ := first.conjoin isWord reads
    have stuck := Stuck.and longer isWord' term
    rwa [List.append_assoc, List.cons_append] at stuck
  | @more L vs ws _ ih =>
    have stuck : Stuck L (ts ++ word :: vs ++ ws) := (ih level).more
    rwa [List.append_assoc, List.cons_append] at stuck
  | _ => cases level

/-- A disjunction gets stuck where its second part does. -/
theorem Stuck.disjoin {ts us : List Token} {word : Token} {a : Expr}
    (first : Reads .disjunction ts a) (isWord : word.isWord "OR" = true)
    (second : Stuck .disjunction us) : Stuck .disjunction (ts ++ word :: us) := by
  generalize level : Level.disjunction = L at second
  induction second with
  | conjoined operand => exact .or first isWord operand
  | @or word' vs ws c reads isWord' operand _ =>
    obtain ⟨e, longer, -⟩ := first.disjoin isWord reads
    have stuck := Stuck.or longer isWord' operand
    rwa [List.append_assoc, List.cons_append] at stuck
  | @more L vs ws _ ih =>
    have stuck : Stuck L (ts ++ word :: vs ++ ws) := (ih level).more
    rwa [List.append_assoc, List.cons_append] at stuck
  | _ => cases level

/-- A comparison that asks for membership and has a single mark is stuck. -/
theorem stuck_single {column operator : String} {comparator : Comparator} {ts : List Token}
    {k : Nat} (plain : IsPlainName column) (known : Comparator.ofText? operator = some comparator)
    (listed : comparator.isMember = true)
    (written : ts.map lexeme = comparisonLexemes column operator [mark])
    (numbered : Numbered k ts) : Stuck .term ts := by
  obtain ⟨name, ops, us, rfl, isColumn, rfl, inTable, marked, numbered⟩ :=
    tokens_of_comparison plain known written numbered
  obtain ⟨m, rest, rfl, first, none⟩ := List.map_eq_cons_iff.1 marked
  obtain rfl := List.map_eq_nil_iff.1 none
  cases comparator with
  | relation op => cases listed
  | pattern pattern negated => cases listed
  | member negated => exact .bare isColumn inTable (kind_of_mark first)

end Registrar.Sql
