import Registrar.Binding
import Registrar.Proofs.Filter.Meaning
import Registrar.Proofs.Filter.Weaving
import Registrar.Proofs.Sql.Refusal

/-!
# Reading of clauses

The expression that the clause of a condition is read as.  Parentheses are written around groups and
negations only, so the proof carries along how weak the outermost operator of a clause may be: the
clause of a condition whose terms are joined by `AND` is a conjunction, joined by `OR` a
disjunction, and both are closed under joining with their word.

A clause is read as an expression of the meaning of its condition exactly if every test of
membership is given a list: a single value is written as a bare mark, at which reading stops.
-/

namespace Registrar

open Registrar.Sql Registrar.Sql.Token

/-- The outermost operator of what a conjunction joins. -/
def Conjunction.level : Conjunction → Level
  | .and => .conjunction
  | .or => .disjunction

/-- What a clause says in a row of the tables of a statement, with its parameters bound. -/
abbrev Meaning := Names → Env → Option Bool

/-- The columns of some terms are there in a row. -/
def Covers (table : String) (names : Names) (env : Env) (terms : List Term) : Prop :=
  ∀ term ∈ terms, ∀ column, term.column? table = some column →
    (names.operand? env column).isSome = true

/-- Tokens are read as an expression of a level that has a meaning, once the columns of some terms
are there and cells are bound behind a number. -/
def ReadsAs (table : String) (level : Level) (terms : List Term) (k : Nat) (cells : List Cell)
    (meaning : Meaning) (ts : List Token) : Prop :=
  ∃ e, Reads level ts e ∧ ∀ names env, Covers table names env terms → env.Binds k cells →
    e.truth? names env = some (meaning names env)

/-- A clause is read at a level and has a meaning, if every test of membership among its terms is
given a list; else its reading gets stuck. -/
structure Says (table : String) (level : Level) (terms : List Term) (meaning : Meaning)
    (clause : Clause) : Prop where
  spelled : ∃ ls, Spells clause.text.toList ls ∧ Unnamed ls ∧
    parameterCount ls = clause.parameters.length ∧
    ∀ k ts, ts.map lexeme = ls → Numbered k ts →
      ((∀ term ∈ terms, term.IsListed) →
        ReadsAs table level terms k (clause.parameters.map Value.stored) meaning ts) ∧
      ((∃ term ∈ terms, ¬ term.IsListed) → Stuck level ts)

namespace Conjunction

/-- What an operand of both conjunctions is read as, either reads. -/
theorem reads_of_term (conjunction : Conjunction) {ts : List Token} {e : Expr}
    (reads : Reads .term ts e) : Reads conjunction.level ts e := by
  cases conjunction with
  | and => exact .single reads
  | or => exact .conjoined (.single reads)

/-- What is read as a conjunction, either conjunction reads. -/
theorem reads_of_conjunction (conjunction : Conjunction) {ts : List Token} {e : Expr}
    (reads : Reads .conjunction ts e) : Reads conjunction.level ts e := by
  cases conjunction with
  | and => exact reads
  | or => exact .conjoined reads

/-- What either conjunction reads is a disjunction. -/
theorem disjunction_of_reads (conjunction : Conjunction) {ts : List Token} {e : Expr}
    (reads : Reads conjunction.level ts e) : Reads .disjunction ts e := by
  cases conjunction with
  | and => exact .conjoined reads
  | or => exact reads

/-- Where an operand gets stuck, either conjunction does. -/
theorem stuck_of_term (conjunction : Conjunction) {ts : List Token} (stuck : Stuck .term ts) :
    Stuck conjunction.level ts := by
  cases conjunction with
  | and => exact .single stuck
  | or => exact .conjoined (.single stuck)

/-- Where a conjunction gets stuck, so do chains of it. -/
theorem stuck_of_conjunction (conjunction : Conjunction) {ts : List Token}
    (stuck : Stuck .conjunction ts) : Stuck conjunction.level ts := by
  cases conjunction with
  | and => exact stuck
  | or => exact .conjoined stuck

/-- Where either conjunction gets stuck, a disjunction does. -/
theorem disjunction_of_stuck (conjunction : Conjunction) {ts : List Token}
    (stuck : Stuck conjunction.level ts) : Stuck .disjunction ts := by
  cases conjunction with
  | and => exact .conjoined stuck
  | or => exact stuck

/-- What a conjunction joins is read with the truth that it gives. -/
theorem reads_join (conjunction : Conjunction) {ts us : List Token} {word : Token} {a b : Expr}
    (first : Reads conjunction.level ts a) (isWord : word.isWord conjunction.word = true)
    (second : Reads conjunction.level us b) :
    ∃ e, Reads conjunction.level (ts ++ word :: us) e ∧ ∀ names env, e.truth? names env =
      (a.truth? names env).bind fun x => (b.truth? names env).map (conjunction.join x) := by
  cases conjunction with
  | and =>
    obtain ⟨e, reads, same⟩ := Reads.conjoin first isWord second
    exact ⟨e, reads, fun names env => (same names env).trans (Expr.truth?_and a b)⟩
  | or =>
    obtain ⟨e, reads, same⟩ := Reads.disjoin first isWord second
    exact ⟨e, reads, fun names env => (same names env).trans (Expr.truth?_or a b)⟩

/-- Joining gets stuck where its second part does. -/
theorem stuck_join (conjunction : Conjunction) {ts us : List Token} {word : Token} {a : Expr}
    (first : Reads conjunction.level ts a) (isWord : word.isWord conjunction.word = true)
    (second : Stuck conjunction.level us) : Stuck conjunction.level (ts ++ word :: us) := by
  cases conjunction with
  | and => exact .conjoin first isWord second
  | or => exact .disjoin first isWord second

/-- The word of a conjunction is one. -/
theorem isIdentifierChars_word (conjunction : Conjunction) :
    isIdentifierChars conjunction.word.toList = true := by
  cases conjunction <;> decide

/-- The word of a conjunction is its own capitals. -/
theorem upperAscii_word (conjunction : Conjunction) :
    Text.upperAscii conjunction.word = conjunction.word := by
  cases conjunction <;> decide

end Conjunction

/-- A token that is written as a word in capitals is that keyword. -/
theorem isWord_of_lexeme {t : Token} {word : String} (written : t.lexeme = (.word, word.toList))
    (capitals : Text.upperAscii word = word) : t.isWord word = true := by
  have kind : t.kind = .word := congrArg Prod.fst written
  have source : t.source = word.toList := congrArg Prod.snd written
  simp [Token.isWord, Token.text, kind, source, capitals]

namespace Says

variable {table : String} {terms others : List Term} {meaning other : Meaning}
  {clause rest : Clause}

/-- What is read at one level is read at another that reads as much. -/
theorem weaken {low high : Level} (said : Says table low terms meaning clause)
    (reads : ∀ {ts e}, Reads low ts e → Reads high ts e)
    (stuck : ∀ {ts}, Stuck low ts → Stuck high ts) : Says table high terms meaning clause := by
  obtain ⟨ls, spells, unnamed, count, read⟩ := said.spelled
  refine ⟨ls, spells, unnamed, count, ?_⟩
  intro k ts written numbered
  obtain ⟨readable, refused⟩ := read k ts written numbered
  refine ⟨?_, fun unlisted => stuck (refused unlisted)⟩
  intro listed
  obtain ⟨e, isRead, truth⟩ := readable listed
  exact ⟨e, reads isRead, truth⟩

/-- Clauses behind each other, with the word of a conjunction between them, say what the
conjunction makes of both. -/
theorem append (conjunction : Conjunction)
    (first : Says table conjunction.level terms meaning clause)
    (second : Says table conjunction.level others other rest) :
    Says table conjunction.level (terms ++ others)
      (fun names env => conjunction.join (meaning names env) (other names env))
      (Clause.append conjunction.word clause rest) := by
  obtain ⟨ls, spells, unnamed, count, read⟩ := first.spelled
  obtain ⟨ms, spells', unnamed', count', read'⟩ := second.spelled
  have word := spells_identifier conjunction.isIdentifierChars_word
  refine ⟨ls ++ (.word, conjunction.word.toList) :: ms, ?_, ?_, ?_, ?_⟩
  · have joined := (spells.blank word).blank spells'
    simpa [Clause.append] using joined
  · have noParameter : TokenKind.word ≠ .parameter := by decide
    exact unnamed.append (unnamed'.cons (.inl noParameter))
  · simp [Clause.append, count, count']
  · intro k ts written numbered
    obtain ⟨ts, behind, rfl, writtenFirst, written⟩ := List.map_eq_append_iff.1 written
    obtain ⟨w, us, rfl, isWord, writtenSecond⟩ := List.map_eq_cons_iff.1 written
    have kind : w.kind = .word := congrArg Prod.fst isWord
    have isConjunction := isWord_of_lexeme isWord conjunction.upperAscii_word
    obtain ⟨numberedFirst, numbered⟩ := numbered_append.1 numbered
    have numberedSecond : Numbered (k + clause.parameters.length) us := by
      rw [writtenFirst, count] at numbered
      simpa [Numbered, kind] using numbered
    obtain ⟨readable, refused⟩ := read k ts writtenFirst numberedFirst
    obtain ⟨readable', refused'⟩ := read' _ us writtenSecond numberedSecond
    constructor
    · intro listed
      obtain ⟨a, isRead, truth⟩ := readable fun t mem => listed t (List.mem_append_left _ mem)
      obtain ⟨b, isRead', truth'⟩ := readable' fun t mem => listed t (List.mem_append_right _ mem)
      obtain ⟨e, joined, same⟩ := conjunction.reads_join isRead isConjunction isRead'
      refine ⟨e, joined, ?_⟩
      intro names env covers binds
      rw [Clause.append, List.map_append] at binds
      obtain ⟨bindsFirst, bindsSecond⟩ := binds.append
      rw [List.length_map] at bindsSecond
      rw [same, truth names env (fun t mem => covers t (List.mem_append_left _ mem)) bindsFirst,
        truth' names env (fun t mem => covers t (List.mem_append_right _ mem)) bindsSecond]
      rfl
    · rintro ⟨t, mem, unlisted⟩
      by_cases early : ∃ t ∈ terms, ¬ t.IsListed
      · exact (refused early).more
      · have listed : ∀ t ∈ terms, t.IsListed := fun t mem =>
          Decidable.byContradiction fun no => early ⟨t, mem, no⟩
        obtain ⟨a, isRead, -⟩ := readable listed
        refine conjunction.stuck_join isRead isConjunction (refused' ⟨t, ?_, unlisted⟩)
        exact (List.mem_append.1 mem).resolve_left fun mem => unlisted (listed t mem)

/-- A clause in parentheses says what it says without them, as an operand. -/
theorem wrapped (said : Says table .disjunction terms meaning clause) :
    Says table .term terms meaning (clause.wrapped "") := by
  obtain ⟨ls, spells, unnamed, count, read⟩ := said.spelled
  refine ⟨(.symbol, ['(']) :: ls ++ [(.symbol, [')'])], ?_, ?_, ?_, ?_⟩
  · simpa [Clause.wrapped] using spells.enclosed
  · exact unnamed.enclosed
  · simp [Clause.wrapped, count]
  · intro k ts written numbered
    obtain ⟨opening, us, closing, rfl, opens, closes, inside, numberedInside⟩ :=
      tokens_of_enclosed written numbered
    obtain ⟨readable, refused⟩ := read k us inside numberedInside
    constructor
    · intro listed
      obtain ⟨e, isRead, truth⟩ := readable listed
      exact ⟨e, .group opens isRead closes, truth⟩
    · intro unlisted
      exact (Stuck.group opens (refused unlisted)).more

/-- A negated operand says the negation of what it says. -/
theorem negated (said : Says table .term terms meaning (clause.wrapped "")) :
    Says table .term terms (fun names env => (meaning names env).map (! ·))
      (clause.wrapped "NOT ") := by
  obtain ⟨ls, spells, unnamed, count, read⟩ := said.spelled
  have word : Spells "NOT".toList [(.word, "NOT".toList)] := spells_identifier (by decide)
  refine ⟨(.word, "NOT".toList) :: ls, ?_, ?_, ?_, ?_⟩
  · have joined := word.blank spells
    have text : (clause.wrapped "NOT ").text.toList =
        "NOT".toList ++ ' ' :: (clause.wrapped "").text.toList := by
      simp [Clause.wrapped]
    rw [text]
    exact joined
  · have noParameter : TokenKind.word ≠ .parameter := by decide
    exact unnamed.cons (.inl noParameter)
  · simpa [Clause.wrapped] using count
  · intro k ts written numbered
    obtain ⟨w, us, rfl, isWord, written⟩ := List.map_eq_cons_iff.1 written
    have kind : w.kind = .word := congrArg Prod.fst isWord
    have isNot := isWord_of_lexeme isWord (by decide)
    have numberedRest : Numbered k us := by simpa [Numbered, kind] using numbered
    obtain ⟨readable, refused⟩ := read k us written numberedRest
    constructor
    · intro listed
      obtain ⟨e, isRead, truth⟩ := readable listed
      refine ⟨_, .negation isNot isRead, ?_⟩
      intro names env covers binds
      rw [Expr.truth?_not, truth names env covers binds]
      rfl
    · exact fun unlisted => .negation isNot (refused unlisted)

/-- A comparison with a single mark is read as one, unless it asks for membership. -/
theorem single {column operator : String} {comparator : Comparator} (term : Term)
    (plain : IsPlainName column) (known : Comparator.ofText? operator = some comparator)
    (compares : term.column? table = some column)
    (unlisted : term.IsListed ↔ comparator.isMember = false) (value : Value) :
    Says table .term [term]
      (fun names env => columnTruth names env column comparator [value.stored])
      ⟨column ++ " " ++ operator ++ " ?", [value]⟩ := by
  have spells := spells_operator known (spells_identifier plain.1) spells_mark
  have marked : Unnamed [mark] := unnamed_markLexemes 1
  refine ⟨comparisonLexemes column operator [mark], ?_,
    unnamed_comparisonLexemes column operator marked, ?_, ?_⟩
  · simpa [comparisonLexemes] using spells
  · simp [mark]
  · intro k ts written numbered
    constructor
    · intro listed
      have single := unlisted.1 (listed term List.mem_cons_self)
      obtain ⟨e, isRead, truth⟩ := reads_single plain known single written numbered
      refine ⟨e, isRead, ?_⟩
      intro names env covers binds
      obtain ⟨operand, found⟩ :=
        Option.isSome_iff_exists.1 (covers term List.mem_cons_self column compares)
      exact (truth names env operand value.stored found binds).trans
        (congrArg some (columnTruth_of_operand found comparator _).symm)
    · rintro ⟨t, mem, refused⟩
      obtain rfl := List.mem_singleton.1 mem
      have member : comparator.isMember = true := by
        rw [← Bool.not_eq_false]
        exact mt unlisted.2 refused
      exact stuck_single plain known member written numbered

end Says

/-- Marks with commas between them are cut into their tokens. -/
theorem spells_marks (n : Nat) : Spells (Clause.marks (n + 1)).toList (markLexemes (n + 1)) := by
  induction n with
  | zero => exact spells_mark
  | succ n ih =>
    have marks : Clause.marks (n + 2) = "?" ++ ", " ++ Clause.marks (n + 1) := by
      simp only [Clause.marks, List.replicate_succ, String.intercalate_cons_cons]
    rw [marks]
    simpa [markLexemes] using spells_mark.comma ih

/-- Marks in parentheses are cut into their tokens. -/
theorem spells_list (n : Nat) : Spells ("(" ++ Clause.marks n ++ ")").toList
    ((.symbol, ['(']) :: markLexemes n ++ [(.symbol, [')'])]) := by
  cases n with
  | zero => exact Spells.parentheses
  | succ n => simpa using (spells_marks n).enclosed

namespace Says

variable {table : String}

/-- Membership in a list is read as such. -/
theorem listed {column operator : String} {comparator : Comparator} (term : Term)
    (plain : IsPlainName column) (known : Comparator.ofText? operator = some comparator)
    (member : comparator.isMember = true) (compares : term.column? table = some column)
    (given : term.IsListed) (items : List Value) :
    Says table .term [term]
      (fun names env => columnTruth names env column comparator (items.map Value.stored))
      ⟨column ++ " " ++ operator ++ " " ++ ("(" ++ Clause.marks items.length ++ ")"), items⟩ := by
  have spells := spells_operator known (spells_identifier plain.1) (spells_list items.length)
  have marked := (unnamed_markLexemes items.length).enclosed
  refine ⟨comparisonLexemes column operator
    ((.symbol, ['(']) :: markLexemes items.length ++ [(.symbol, [')'])]), ?_,
    unnamed_comparisonLexemes column operator marked, ?_, ?_⟩
  · simpa [comparisonLexemes] using spells
  · simp
  · intro k ts written numbered
    constructor
    · intro _
      obtain ⟨e, isRead, truth⟩ := reads_listed plain known member written numbered
      refine ⟨e, isRead, ?_⟩
      intro names env covers binds
      obtain ⟨operand, found⟩ :=
        Option.isSome_iff_exists.1 (covers term List.mem_cons_self column compares)
      exact (truth names env operand (items.map Value.stored) found (List.length_map _) binds).trans
        (congrArg some (columnTruth_of_operand found comparator _).symm)
    · rintro ⟨t, mem, refused⟩
      obtain rfl := List.mem_singleton.1 mem
      exact absurd given refused

end Says

/-- A clause says what a condition means, or neither says anything. -/
inductive Agrees (table : String) (level : Level) :
    List Term → (Names → Env → Option (Option Bool)) → Clause → Prop where
  | nothing {meant : Names → Env → Option (Option Bool)} :
      (∀ names env, meant names env = none) → Agrees table level [] meant Clause.empty
  | something {terms : List Term} {meant : Names → Env → Option (Option Bool)} {clause : Clause}
      {meaning : Meaning} : terms ≠ [] → clause.isEmpty = false →
      (∀ names env, meant names env = some (meaning names env)) →
      Says table level terms meaning clause → Agrees table level terms meant clause

namespace Agrees

variable {table : String} {terms others : List Term}
  {meant also : Names → Env → Option (Option Bool)} {clause rest : Clause}

/-- Agreement at one level is agreement at another that reads as much. -/
theorem weaken {low high : Level} (agrees : Agrees table low terms meant clause)
    (reads : ∀ {ts e}, Reads low ts e → Reads high ts e)
    (stuck : ∀ {ts}, Stuck low ts → Stuck high ts) : Agrees table high terms meant clause := by
  cases agrees with
  | nothing none => exact .nothing none
  | something present speaks same said =>
    exact .something present speaks same (said.weaken reads stuck)

/-- An operand agrees in either conjunction. -/
theorem ofTerm (conjunction : Conjunction) (agrees : Agrees table .term terms meant clause) :
    Agrees table conjunction.level terms meant clause :=
  agrees.weaken conjunction.reads_of_term conjunction.stuck_of_term

/-- Joined clauses say what joined conditions mean. -/
theorem both (conjunction : Conjunction) (first : Agrees table conjunction.level terms meant clause)
    (second : Agrees table conjunction.level others also rest) :
    Agrees table conjunction.level (terms ++ others)
      (fun names env => conjunction.both (meant names env) (also names env))
      (clause.both conjunction rest) := by
  cases first with
  | nothing none =>
    have same : (fun names env => conjunction.both (meant names env) (also names env)) = also := by
      funext names env
      rw [none, Conjunction.both]
    rw [same]
    exact second
  | something present speaks same said =>
    cases second with
    | nothing none =>
      have alone : (fun names env => conjunction.both (meant names env) (also names env)) =
          meant := by
        funext names env
        rw [none, same]
        rfl
      rw [alone, List.append_nil]
      simpa [Clause.both, speaks] using Agrees.something present speaks same said
    | something present' speaks' same' said' =>
      have joined := Clause.isEmpty_append conjunction.word clause speaks'
      have text : clause.both conjunction rest = Clause.append conjunction.word clause rest := by
        simp [Clause.both, speaks, speaks']
      rw [text]
      refine .something (by simp [present]) joined ?_ (said.append conjunction said')
      intro names env
      rw [same, same']
      rfl

/-- A group says what its content means. -/
theorem group (conjunction : Conjunction)
    (agrees : Agrees table conjunction.level terms meant clause) :
    Agrees table .term terms meant (clause.enclosed "") := by
  cases agrees with
  | nothing none => exact .nothing none
  | something present speaks same said =>
    have text : clause.enclosed "" = clause.wrapped "" := by simp [Clause.enclosed, speaks]
    rw [text]
    have whole := said.weaken conjunction.disjunction_of_reads conjunction.disjunction_of_stuck
    exact .something present (Clause.isEmpty_wrapped "" clause) same whole.wrapped

/-- A negation says the negation of what its content means. -/
theorem negation (agrees : Agrees table .conjunction terms meant clause) :
    Agrees table .term terms (fun names env => (meant names env).map fun truth => truth.map (! ·))
      (clause.enclosed "NOT ") := by
  cases agrees with
  | nothing none => exact .nothing fun names env => by rw [none, Option.map_none]
  | something present speaks same said =>
    have text : clause.enclosed "NOT " = clause.wrapped "NOT " := by
      simp [Clause.enclosed, speaks]
    rw [text]
    have whole := said.weaken .conjoined .conjoined
    refine .something present (Clause.isEmpty_wrapped "NOT " clause) ?_ whole.wrapped.negated
    intro names env
    rw [same, Option.map_some]

/-- A name with an underscore is no keyword. -/
theorem isReserved_of_underscore {name : String} (mem : '_' ∈ name.toList) :
    isReserved name = false := by
  have none : ∀ word ∈ reservedWords, '_' ∉ word.toList := by decide
  have kept : '_' ∈ (Text.upperAscii name).toList := by
    rw [toList_upperAscii]
    exact List.mem_map.2 ⟨'_', mem, by decide⟩
  rw [isReserved, ← Bool.not_eq_true, List.contains_iff_mem]
  exact fun reserved => none _ reserved kept

/-- An identifier goes on with letters, digits and underscores. -/
theorem isIdentifier_append {suffix : String} (valid : isIdentifier table = true)
    (others : (suffix.toList.all fun c => startsIdentifier c || Text.isDigit c) = true) :
    isIdentifier (table ++ suffix) = true := by
  unfold isIdentifier at valid ⊢
  rw [String.toList_append]
  cases chars : table.toList with
  | nil => simp [chars, isIdentifierChars] at valid
  | cons c cs =>
    rw [chars] at valid
    simp only [List.cons_append, isIdentifierChars, List.all_append, others, Bool.and_true]
      at valid ⊢
    exact valid

/-- The columns of a plain table that identify a row and name it are plain. -/
theorem isPlainName_append {suffix : String} (plainTable : isIdentifier table = true)
    (valid : (suffix.toList.all fun c => startsIdentifier c || Text.isDigit c) = true)
    (mem : '_' ∈ suffix.toList) : IsPlainName (table ++ suffix) :=
  ⟨isIdentifier_append plainTable valid, isReserved_of_underscore (by simp [mem])⟩

/-- A bare value's clause says what it asks for. -/
theorem bare {value : Value} {term : Term} (plainTable : isIdentifier table = true)
    (only : Condition.bareTerms value = [term]) (plain : term.IsPlain) :
    Agrees table .term [term] (fun names env => some (term.truth table names env))
      (term.clause table) := by
  have equality : Comparator.ofText? "=" = some (.relation .eq) := by decide
  rcases Condition.bareTerms_cases only with ⟨n, rfl⟩ | ⟨s, rfl⟩ | ⟨s, rfl, -⟩
  · have column : IsPlainName (table ++ "_id") :=
      isPlainName_append plainTable (by decide) (by decide)
    have said := Says.single (.id n) column equality rfl (by simp [Term.IsListed,
      Comparator.isMember]) (.integer n)
    have text : table ++ "_id" ++ " " ++ "=" ++ " ?" = table ++ "_id = ?" := by
      simp only [String.append_assoc]
      rfl
    rw [text] at said
    exact .something (List.cons_ne_nil _ _) (Clause.isBlankText_append_of_right table (by decide))
      (fun _ _ => rfl) said
  · have column : IsPlainName (table ++ "_val") :=
      isPlainName_append plainTable (by decide) (by decide)
    have said := Says.single (.name s) column equality rfl (by simp [Term.IsListed,
      Comparator.isMember]) (.text s)
    have text : table ++ "_val" ++ " " ++ "=" ++ " ?" = table ++ "_val = ?" := by
      simp only [String.append_assoc]
      rfl
    rw [text] at said
    exact .something (List.cons_ne_nil _ _) (Clause.isBlankText_append_of_right table (by decide))
      (fun _ _ => rfl) said
  · exact absurd plain fun impossible => impossible

/-- The clause of a comparison says what it means. -/
theorem comparison {column operator : String} {value : Value}
    (plain : (Term.comparison column operator value).IsPlain) (suits : value.Suits operator) :
    Agrees table .term [.comparison column operator value]
      (fun names env => some ((Term.comparison column operator value).truth table names env))
      ((Term.comparison column operator value).clause table) := by
  obtain ⟨isColumn, isOperator⟩ := plain
  obtain ⟨comparator, known⟩ := Option.isSome_iff_exists.1 isOperator
  have asksMembership := isMembership_eq_isMember known
  have meaning : ∀ names env, (Term.comparison column operator value).truth table names env =
      columnTruth names env column comparator value.cells := by
    intro names env
    rw [Term.truth, known, Option.bind_some]
  have speaks : ((Term.comparison column operator value).clause table).isEmpty = false :=
    Clause.isBlankText_append_of_right _ (Keeps.isBlankText_placeholder value)
  refine .something (List.cons_ne_nil _ _) speaks
    (fun names env => congrArg some (meaning names env)) ?_
  by_cases given : value.width?.isSome = true
  · cases value with
    | list items =>
      have member : comparator.isMember = true := asksMembership.symm.trans suits
      exact Says.listed (.comparison column operator (.list items)) isColumn known member rfl
        (fun _ => given) items
    | _ => cases given
  · have unlisted : (Term.comparison column operator value).IsListed ↔
        comparator.isMember = false := by
      rw [Term.IsListed, asksMembership, ← Bool.not_eq_true]
      exact ⟨fun listed member => given (listed member), fun other member => absurd member other⟩
    have compares : (Term.comparison column operator value).column? table = some column := rfl
    have said := Says.single _ isColumn known compares unlisted value
    have alone : value.cells = [value.stored] ∧ Clause.placeholder value = ⟨"?", [value]⟩ := by
      cases value with
      | list items => exact absurd rfl given
      | _ => exact ⟨rfl, rfl⟩
    have text : (Term.comparison column operator value).clause table =
        ⟨column ++ " " ++ operator ++ " ?", [value]⟩ := by
      simp only [Term.clause, alone.2, String.append_assoc]
      rfl
    rw [alone.1, text]
    exact said

end Agrees

open Condition

/-- The clauses of accepted conditions of plain terms say what the conditions mean. -/
theorem compositional_agrees {table : String} (plainTable : isIdentifier table = true) :
    Compositional table
      (fun conjunction condition clause => (∀ term ∈ condition.terms, term.IsPlain) →
        Agrees table conjunction.level condition.terms
          (fun names env => condition.meaning table names env conjunction) clause)
      (fun conjunction entries clause => (∀ term ∈ entryTerms entries, term.IsPlain) →
        Agrees table conjunction.level (entryTerms entries)
          (fun names env => entriesMeaning table names env conjunction entries) clause)
      (fun conjunction items clause => (∀ term ∈ itemTerms items, term.IsPlain) →
        Agrees table conjunction.level (itemTerms items)
          (fun names env => itemsMeaning table names env conjunction items) clause) where
  bare := fun conjunction value term only plain => by
    rw [terms, only] at plain ⊢
    have agrees := Agrees.bare plainTable only (plain term List.mem_cons_self)
    simp only [meaning_bare conjunction only]
    exact agrees.ofTerm conjunction
  map := fun conjunction entries clause agrees plain => by
    rw [terms] at plain ⊢
    simp only [meaning]
    exact agrees plain
  lists := fun conjunction items clause lists agrees plain => by
    rw [terms_lists lists] at plain ⊢
    simp only [meaning_lists conjunction lists]
    exact agrees plain
  only := fun conjunction only clause flat agrees plain => by
    rw [terms_only flat] at plain ⊢
    simp only [meaning_only conjunction flat]
    exact agrees plain
  comparison := fun conjunction items column operator value flat compares suits plain => by
    rw [terms_comparison flat compares] at plain ⊢
    simp only [meaning_comparison conjunction flat compares]
    exact (Agrees.comparison (plain _ List.mem_cons_self) suits).ofTerm conjunction
  noEntries := fun conjunction _ => .nothing fun _ _ => rfl
  nested := fun conjunction key inner opening condition clause entries rest nests agrees others
      plain => by
    rw [entryTerms_nested nests] at plain ⊢
    have first := agrees fun t mem => plain t (List.mem_append_left _ mem)
    have second := others fun t mem => plain t (List.mem_append_right _ mem)
    cases key with
    | group _ =>
      obtain ⟨rfl, rfl⟩ := Prod.mk.inj (Option.some.inj nests)
      simp only [entriesMeaning]
      exact (first.group.ofTerm conjunction).both conjunction second
    | not =>
      obtain ⟨rfl, rfl⟩ := Prod.mk.inj (Option.some.inj nests)
      simp only [entriesMeaning]
      exact (first.negation.ofTerm conjunction).both conjunction second
    | compare _ _ => cases nests
    | column _ => cases nests
  compared := fun conjunction key column operator value entries rest compares suits others
      plain => by
    rw [entryTerms_compared compares] at plain ⊢
    simp only [entriesMeaning_compared conjunction compares]
    have first : Agrees table .term _ _ _ :=
      .comparison (plain _ List.mem_cons_self) suits
    have second := others fun t mem => plain t (List.mem_cons_of_mem _ mem)
    exact (first.ofTerm conjunction).both conjunction second
  noItems := fun conjunction _ => .nothing fun _ _ => rfl
  item := fun conjunction item clause items rest agrees others plain => by
    rw [itemTerms] at plain ⊢
    have first := agrees fun t mem => plain t (List.mem_append_left _ mem)
    have second := others fun t mem => plain t (List.mem_append_right _ mem)
    have lifted := first.weaken conjunction.reads_of_conjunction conjunction.stuck_of_conjunction
    simp only [itemsMeaning]
    exact lifted.both conjunction second

/-- What is bound to the marks of a text is what its values are stored as. -/
theorem bindCells_eq {values : List Value} {cells : List Cell}
    (bound : bindCells values = .ok cells) :
    cells = values.map Value.stored := by
  induction values generalizing cells with
  | nil => exact (Except.ok.inj bound).symm
  | cons value values ih =>
    cases stored : value.cell? with
    | none =>
      simp only [bindCells, stored] at bound
      cases bound
    | some cell =>
      simp only [bindCells, stored] at bound
      obtain ⟨rest, others, joined⟩ := bind_eq_ok bound
      rw [← Except.ok.inj joined, ih others, List.map_cons, Value.stored, stored]
      rfl

/-- What is bound to as many marks as there are values is what the values are stored as. -/
theorem of_bindValues {values : List Value} {n : Nat} {cells : List Cell} (all : n = values.length)
    (bound : bindValues n values = .ok cells) : cells = values.map Value.stored := by
  subst all
  obtain ⟨taken, bound, rest⟩ := bind_eq_ok bound
  rw [if_pos rfl] at rest
  rw [← Except.ok.inj rest, bindCells_eq bound, List.take_length]

/-- The tokens of a text that has a count of parameters have none out of range, unless there are too
many. -/
theorem inRange_of_numbered {ts : List Token} {count : Nat} (numbered : Numbered 0 ts)
    (counted : parameterCount (ts.map lexeme) = count) (few : count ≤ 32766) : InRange ts := by
  intro t mem parameter
  have range := numbered.range t mem parameter
  omega

namespace Clause

/-- A clause is an expression that is true of a row exactly if the row means so: by the precedence
of operators, and for the reader of statements, unless there are too many parameters. -/
def Expresses (table : String) (terms : List Term) (meaning : Names → Env → Option (Option Bool))
    (clause : Clause) : Prop :=
  ∃ e, Reads .disjunction (Token.numbered clause.text) e ∧
    (clause.parameters.length ≤ 32766 → readWhole (Token.numbered clause.text) = .ok (e, [])) ∧
    ∀ names env, Covers table names env terms → bindCells clause.parameters = .ok env.parameters →
      ∃ truth, meaning names env = some truth ∧ e.truth? names env = some truth

/-- A clause is no expression. -/
def IsRefused (clause : Clause) : Prop :=
  clause.parameters.length ≤ 32766 →
    ∃ stop, readWhole (Token.numbered clause.text) = .error stop

end Clause

/-- The clause of a condition on plain columns means what the condition means, in every row and at
every depth of groups, negations and lists: it is empty if the condition has no terms, it is an
expression of that meaning if every test of membership is given a list, and no expression at all
otherwise. -/
theorem clause_means {table : String} {conjunction : Conjunction} {condition : Condition}
    {clause : Clause} (plainTable : isIdentifier table = true)
    (accepted : condition.compile table conjunction = .ok clause)
    (plain : ∀ term ∈ condition.terms, term.IsPlain) :
    if condition.terms = [] then
      clause = Clause.empty ∧ ∀ names env, condition.meaning table names env conjunction = none
    else if ∀ term ∈ condition.terms, term.IsListed then
      clause.Expresses table condition.terms fun names env =>
        condition.meaning table names env conjunction
    else clause.IsRefused := by
  have agrees := (compositional_agrees plainTable).compile conjunction condition accepted plain
  generalize condition.terms = terms at agrees ⊢
  cases agrees with
  | nothing none =>
    rw [if_pos rfl]
    exact ⟨rfl, none⟩
  | @something _ _ _ meaning present speaks same said =>
    rw [if_neg present]
    obtain ⟨ls, spells, unnamed, count, read⟩ :=
      (said.weaken conjunction.disjunction_of_reads conjunction.disjunction_of_stuck).spelled
    obtain ⟨written, numbered⟩ := spells.numbered unnamed
    obtain ⟨readable, refused⟩ := read 0 _ written numbered
    have inRange : clause.parameters.length ≤ 32766 → InRange (Token.numbered clause.text) :=
      inRange_of_numbered numbered (by rw [written, count])
    by_cases listed : ∀ term ∈ terms, term.IsListed
    · rw [if_pos listed]
      obtain ⟨e, isRead, truth⟩ := readable listed
      refine ⟨e, isRead, ?_, ?_⟩
      · intro few
        have stops : Stops 0 [] := trivial
        have whole := isRead.readWhole (inRange few) stops
        rwa [List.append_nil] at whole
      · intro names env covers bound
        refine ⟨meaning names env, same names env, truth names env covers ?_⟩
        rw [← bindCells_eq bound]
        intro i cell at'
        rw [Nat.zero_add]
        exact at'
    · rw [if_neg listed]
      intro few
      have unlisted : ∃ term ∈ terms, ¬ term.IsListed := by simpa using listed
      exact (refused unlisted).readWhole

/-- A negated list of lists, with a test of membership, beside a group. -/
def unlessOldPug : Condition :=
  .map [(.not, .list [.list [.scalar (.text "breed"), .scalar (.text "pug")],
      .map [(.group .or, .map [(.compare "age" "in", .scalar (.text "8,9"))])]]),
    (.group .and, .scalar (.text "rex"))]

/-- A condition of several levels is an expression of its meaning, and a single value among the ages
is none. -/
theorem clause_means_nested :
    Clause.Expresses "dog" unlessOldPug.terms
        (fun names env => unlessOldPug.meaning "dog" names env .or)
        ⟨"NOT (breed = ? AND (age in (?, ?))) OR (dog_val = ?)",
          [.text "pug", .integer 8, .integer 9, .text "rex"]⟩ ∧
      Clause.IsRefused ⟨"age in ?", [.integer 8]⟩ := by
  have plainTable : isIdentifier "dog" = true := by decide
  constructor
  · have accepted : unlessOldPug.compile "dog" .or =
        .ok ⟨"NOT (breed = ? AND (age in (?, ?))) OR (dog_val = ?)",
          [.text "pug", .integer 8, .integer 9, .text "rex"]⟩ := rfl
    exact clause_means plainTable accepted (by decide)
  · have accepted : Condition.compile "dog" .and
        (.map [(.compare "age" "in", .scalar (.text "8"))]) =
        .ok ⟨"age in ?", [.integer 8]⟩ := rfl
    exact clause_means plainTable accepted (by decide)

end Registrar
