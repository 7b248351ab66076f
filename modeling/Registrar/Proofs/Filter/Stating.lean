import Registrar.Proofs.Filter.Guard
import Registrar.Proofs.Filter.Reading
import Registrar.Proofs.Sql.Phrases

/-!
# Statements with a condition

What a question, a removal and a change with the clause of a condition are read as.  The clause is
the same text in all of them, but its marks have the numbers behind those of the new values in a
change; it is read as an expression of what the condition means wherever it stands, unless a test of
membership is given no list or there are too many parameters, and then the statement is not read.
-/

namespace Registrar

open Registrar.Sql Registrar.Sql.Token

/-- An expression has the truth that a condition means in every row, once cells are bound to the
marks behind a number. -/
def Condition.IsMeantBy (table : String) (condition : Condition) (clause : Clause) (k : Nat)
    (e : Expr) : Prop :=
  ∀ names env, Covers table names env condition.terms →
    env.Binds k (clause.parameters.map Value.stored) →
      ∃ truth, condition.meaning table names env .and = some truth ∧ e.truth? names env = some truth

/-- A condition can be read behind some number of marks: its tests of membership are given lists, and
no mark has a number beyond those that a statement may give. -/
structure Condition.IsReadable (condition : Condition) (clause : Clause) (k : Nat) : Prop where
  listed : ∀ term ∈ condition.terms, term.IsListed
  few : clause.parameters ≠ [] → k + clause.parameters.length ≤ 32766

/-- Marks are in range exactly if the last of them is. -/
theorem inRange_iff {k : Nat} {ts : List Token} (numbered : Numbered k ts) :
    InRange ts ↔ (parameterCount (ts.map lexeme) ≠ 0 → k + parameterCount (ts.map lexeme) ≤ 32766) := by
  induction ts generalizing k with
  | nil => simp
  | cons t ts ih =>
    by_cases parameter : t.kind = .parameter
    · rw [Numbered, if_pos parameter] at numbered
      simp only [inRange_cons, ih numbered.2, List.map_cons, parameterCount_cons, lexeme, parameter,
        if_true, numbered.1, forall_const]
      generalize parameterCount (ts.map lexeme) = n
      rcases n with _ | n
      · simp
      · simp only [ne_eq, Nat.add_eq_zero_iff, Nat.one_ne_zero, and_false, not_false_eq_true,
          forall_const]
        omega
    · rw [Numbered, if_neg parameter] at numbered
      simp [ih numbered, lexeme, parameter]

/-- A clause is cut into tokens that are read as what a condition means, or not at all. -/
structure Tells (table : String) (condition : Condition) (clause : Clause)
    (ls : List (TokenKind × List Char)) : Prop where
  spells : Spells clause.text.toList ls
  unnamed : Unnamed ls
  count : parameterCount ls = clause.parameters.length
  reads : ∀ {k ts}, ts.map lexeme = ls → Numbered k ts → condition.IsReadable clause k →
    ∃ e, (∀ rest, Halts rest → readWhole (ts ++ rest) = .ok (e, rest)) ∧
      condition.IsMeantBy table clause k e
  refuses : ∀ {k ts}, ts.map lexeme = ls → Numbered k ts → ¬ condition.IsReadable clause k →
    ∃ stop, readWhole ts = .error stop

/-- The clause of a condition of plain terms tells what the condition means. -/
theorem tells_of_clause {table : String} {condition : Condition} {clause : Clause}
    (plainTable : isIdentifier table = true) (accepted : condition.clause table = .ok clause)
    (speaks : clause.isEmpty = false) (plain : ∀ term ∈ condition.terms, term.IsPlain) :
    ∃ ls, Tells table condition clause ls := by
  have agrees := (compositional_agrees plainTable).compile .and condition accepted plain
  generalize same : condition.terms = terms at agrees
  cases agrees with
  | nothing none => cases speaks
  | @something _ _ _ meaning present _ means said =>
    subst same
    obtain ⟨ls, spells, unnamed, count, read⟩ :=
      (said.weaken Conjunction.and.disjunction_of_reads Conjunction.and.disjunction_of_stuck).spelled
    refine ⟨ls, spells, unnamed, count, fun {k ts} written numbered readable => ?_,
      fun {k ts} written numbered unreadable => ?_⟩
    · obtain ⟨reads, -⟩ := read k ts written numbered
      obtain ⟨e, isRead, truth⟩ := reads readable.listed
      have inRange : InRange ts := by
        rw [inRange_iff numbered, written, count]
        exact fun some => readable.few fun none => some (by rw [none]; rfl)
      exact ⟨e, fun rest halts => isRead.readWhole inRange halts.stops,
        fun names env covers binds => ⟨_, means names env, truth names env covers binds⟩⟩
    · obtain ⟨reads, refused⟩ := read k ts written numbered
      by_cases listed : ∀ term ∈ condition.terms, term.IsListed
      · obtain ⟨e, isRead, -⟩ := reads listed
        have beyond : ¬ InRange ts := by
          rw [inRange_iff numbered, written, count]
          exact fun few => unreadable ⟨listed, fun some => few fun none =>
            some (List.eq_nil_of_length_eq_zero none)⟩
        obtain ⟨stop, failed⟩ := (isRead.fails beyond).readWhole []
        exact ⟨stop, by rwa [List.append_nil] at failed⟩
      · have unlisted : ∃ term ∈ condition.terms, ¬ term.IsListed := by simpa using listed
        exact (refused unlisted).readWhole

namespace Tells

variable {table : String} {condition : Condition} {clause : Clause} {k : Nat} {ts : List Token}
  {ls : List (TokenKind × List Char)}

/-- A clause that can be read is read to the end of its text. -/
theorem readWhole_eq (tells : Tells table condition clause ls) (written : ts.map lexeme = ls)
    (numbered : Numbered k ts) (readable : condition.IsReadable clause k) :
    ∃ e, readWhole ts = .ok (e, []) ∧ condition.IsMeantBy table clause k e := by
  obtain ⟨e, read, meant⟩ := tells.reads written numbered readable
  exact ⟨e, by simpa using read [] .nothing, meant⟩

/-- A clause that is read is read to its end, as what its condition means. -/
theorem of_readWhole (tells : Tells table condition clause ls) (written : ts.map lexeme = ls)
    (numbered : Numbered k ts) {result : Expr × List Token} (done : readWhole ts = .ok result) :
    ∃ e, result = (e, []) ∧ condition.IsReadable clause k ∧ condition.IsMeantBy table clause k e := by
  by_cases readable : condition.IsReadable clause k
  · obtain ⟨e, read, meant⟩ := tells.readWhole_eq written numbered readable
    rw [read] at done
    exact ⟨e, (Except.ok.inj done).symm, readable, meant⟩
  · obtain ⟨stop, refused⟩ := tells.refuses written numbered readable
    rw [refused] at done
    cases done

end Tells

namespace Call

variable {table : String} {condition : Condition} {clause : Clause}
  {ls : List (TokenKind × List Char)} {parsed : Parsed}

/-- The text of a question for all columns of the rows that a clause means. -/
def questionText (table : String) (clause : Clause) : String :=
  "SELECT * FROM " ++ table ++ " WHERE " ++ clause.text

/-- The tokens of a question for the rows that a clause means. -/
theorem spells_question (named : isIdentifier table = true)
    (tells : Tells table condition clause ls) :
    Spells (questionText table clause).toList
      (word "SELECT" :: star :: word "FROM" :: word table :: word "WHERE" :: ls) := by
  have spelled := (spells_name "SELECT" (by decide)).blank (spells_star.blank
    ((spells_name "FROM" (by decide)).blank ((spells_name table named).blank
      ((spells_name "WHERE" (by decide)).blank tells.spells))))
  simpa [questionText] using spelled

/-- The tokens of a removal of the rows that a clause means. -/
theorem spells_deletion (named : isIdentifier table = true)
    (tells : Tells table condition clause ls) :
    Spells (deletion table ++ " WHERE " ++ clause.text).toList
      (word "DELETE" :: word "FROM" :: word table :: word "WHERE" :: ls) := by
  have spelled := (spells_name "DELETE" (by decide)).blank
    ((spells_name "FROM" (by decide)).blank ((spells_name table named).blank
      ((spells_name "WHERE" (by decide)).blank tells.spells)))
  simpa [deletion] using spelled

/-- The tokens of a change of the rows that a clause means. -/
theorem spells_revision (named : isIdentifier table = true) {values : Entries Value}
    (present : values.isEmpty = false) (valid : ∀ name ∈ values.names, isIdentifier name = true)
    (tells : Tells table condition clause ls) :
    Spells (revision table values ++ " WHERE " ++ clause.text).toList
      (word "UPDATE" :: backquoted table :: word "SET" ::
        ([comma].intercalate (values.names.map assignment) ++ word "WHERE" :: ls)) := by
  have given : values.names ≠ [] := by
    simpa [Entries.isEmpty, Entries.names] using present
  have assigned := spells_commas (· ++ " = ?") assignment given fun name mem => by
    have spelled := (spells_name name (valid name mem)).blank (spells_equals.blank spells_mark)
    simpa [assignment] using spelled
  have spelled := (spells_name "UPDATE" (by decide)).blank ((spells_backquoted named).blank
    ((spells_name "SET" (by decide)).blank (assigned.blank
      ((spells_name "WHERE" (by decide)).blank tells.spells))))
  simpa [revision] using spelled

/-- A keyword is that keyword. -/
theorem isWord_keyword {t : Token} {text : String} (written : t.lexeme = word text)
    (capitals : Text.upperAscii text = text) : t.isWord text = true := by
  rw [isWord_of_word written, capitals, beq_self_eq_true]

/-- Keywords and names have no parameters. -/
theorem unnamed_word (text : String) {ls : List (TokenKind × List Char)} (unnamed : Unnamed ls) :
    Unnamed (word text :: ls) :=
  unnamed.cons (.inl (word_ne_parameter text))

section Questions

/-- The tokens of a question for the rows that a clause means do not have names for parameters. -/
theorem unnamed_question (table : String) (unnamed : Unnamed ls) :
    Unnamed (word "SELECT" :: star :: word "FROM" :: word table :: word "WHERE" :: ls) :=
  unnamed_word _ ((unnamed_word _ (unnamed_word _ (unnamed_word _ unnamed))).cons (.inl (by decide)))

/-- The tokens of a question for the rows that a clause means, with their numbers. -/
theorem tokens_of_question (named : isIdentifier table = true)
    (tells : Tells table condition clause ls) :
    ∃ s t f n w us, Token.numbered (questionText table clause) = s :: t :: f :: n :: w :: us ∧
      s.isWord "SELECT" = true ∧ t.isSymbol "*" = true ∧ f.isWord "FROM" = true ∧
      w.isWord "WHERE" = true ∧ n.lexeme = word table ∧ us.map lexeme = ls ∧ Numbered 0 us := by
  obtain ⟨written, numbered⟩ :=
    (spells_question named tells).numbered (unnamed_question table tells.unnamed)
  obtain ⟨s, ts, tokens, isSelect, written, numbered⟩ := tokens_of_cons (by decide) written numbered
  obtain ⟨t, ts, rfl, isStar, written, numbered⟩ := tokens_of_cons (by decide) written numbered
  obtain ⟨f, ts, rfl, isFrom, written, numbered⟩ := tokens_of_cons (by decide) written numbered
  obtain ⟨n, ts, rfl, isTable, written, numbered⟩ :=
    tokens_of_cons (word_ne_parameter table) written numbered
  obtain ⟨w, us, rfl, isWhere, written, numbered⟩ := tokens_of_cons (by decide) written numbered
  exact ⟨s, t, f, n, w, us, tokens, isWord_keyword isSelect (by decide),
    isSymbol_of_symbol isStar "*", isWord_keyword isFrom (by decide),
    isWord_keyword isWhere (by decide), isTable, written, numbered⟩

/-- A question for the rows that a clause means is read, if its table can be named as it is and the
condition can be read. -/
theorem parse_question (named : isIdentifier table = true) (tells : Tells table condition clause ls)
    (free : isReserved table = false) (readable : condition.IsReadable clause 0) :
    ∃ e, condition.IsMeantBy table clause 0 e ∧ parse (questionText table clause) =
      .ok ⟨some (.select (rowsQuery table e)), clause.parameters.length, questionText table clause,
        []⟩ := by
  obtain ⟨s, t, f, n, w, us, tokens, isSelect, isStar, isFrom, isWhere, isTable, written, numbered⟩ :=
    tokens_of_question named tells
  obtain ⟨e, read, meant⟩ := tells.readWhole_eq written numbered readable
  have isName : n.isName = true := by rw [isName_of_word isTable, free]; rfl
  have reads : readStatement (questionText table clause).toList
      (Token.numbered (questionText table clause)) = .ok (.select (rowsQuery table e), []) := by
    rw [tokens, readStatement_select isSelect isStar isFrom isWhere, if_pos isName, read,
      unquoted_of_word isTable]
    rfl
  have parsed := parse_of_spells (spells_question named tells)
    (unnamed_question table tells.unnamed) rfl reads
  exact ⟨e, meant, by simpa [word, Sql.star, tells.count] using parsed⟩

/-- A question for the rows that a clause means is read only if its table can be named as it is and
the condition can be read. -/
theorem of_parse_question (named : isIdentifier table = true)
    (tells : Tells table condition clause ls)
    (read : parse (questionText table clause) = .ok parsed) :
    isReserved table = false ∧ condition.IsReadable clause 0 := by
  obtain ⟨s, t, f, n, w, us, tokens, isSelect, isStar, isFrom, isWhere, isTable, written, numbered⟩ :=
    tokens_of_question named tells
  obtain ⟨result, done⟩ := readStatement_of_parse (spells_question named tells)
    (unnamed_question table tells.unnamed) rfl read
  rw [tokens, readStatement_select isSelect isStar isFrom isWhere] at done
  split at done
  · next isName =>
    obtain ⟨b, condition, -⟩ := bind_eq_ok done
    obtain ⟨e, -, readable, -⟩ := tells.of_readWhole written numbered condition
    exact ⟨by simpa [isName_of_word isTable] using isName, readable⟩
  · cases done

end Questions

section Removals

/-- The tokens of a removal of the rows that a clause means do not have names for parameters. -/
theorem unnamed_deletion (table : String) (unnamed : Unnamed ls) :
    Unnamed (word "DELETE" :: word "FROM" :: word table :: word "WHERE" :: ls) :=
  unnamed_word _ (unnamed_word _ (unnamed_word _ (unnamed_word _ unnamed)))

/-- The tokens of a removal of the rows that a clause means, with their numbers. -/
theorem tokens_of_deletion (named : isIdentifier table = true)
    (tells : Tells table condition clause ls) :
    ∃ s f n w us, Token.numbered (deletion table ++ " WHERE " ++ clause.text) = s :: f :: n :: w :: us ∧
      s.isWord "DELETE" = true ∧ f.isWord "FROM" = true ∧ w.isWord "WHERE" = true ∧
      n.lexeme = word table ∧ us.map lexeme = ls ∧ Numbered 0 us := by
  obtain ⟨written, numbered⟩ :=
    (spells_deletion named tells).numbered (unnamed_deletion table tells.unnamed)
  obtain ⟨s, ts, tokens, isDelete, written, numbered⟩ := tokens_of_cons (by decide) written numbered
  obtain ⟨f, ts, rfl, isFrom, written, numbered⟩ := tokens_of_cons (by decide) written numbered
  obtain ⟨n, ts, rfl, isTable, written, numbered⟩ :=
    tokens_of_cons (word_ne_parameter table) written numbered
  obtain ⟨w, us, rfl, isWhere, written, numbered⟩ := tokens_of_cons (by decide) written numbered
  exact ⟨s, f, n, w, us, tokens, isWord_keyword isDelete (by decide), isWord_keyword isFrom (by decide),
    isWord_keyword isWhere (by decide), isTable, written, numbered⟩

/-- A removal of the rows that a clause means is read, if its table can be named as it is and the
condition can be read. -/
theorem parse_deletion (named : isIdentifier table = true) (tells : Tells table condition clause ls)
    (free : isReserved table = false) (readable : condition.IsReadable clause 0) :
    ∃ e, condition.IsMeantBy table clause 0 e ∧ parse (deletion table ++ " WHERE " ++ clause.text) =
      .ok ⟨some (.delete table (some e) []), clause.parameters.length,
        deletion table ++ " WHERE " ++ clause.text, []⟩ := by
  obtain ⟨s, f, n, w, us, tokens, isDelete, isFrom, isWhere, isTable, written, numbered⟩ :=
    tokens_of_deletion named tells
  obtain ⟨e, read, meant⟩ := tells.readWhole_eq written numbered readable
  have isName : n.isName = true := by rw [isName_of_word isTable, free]; rfl
  have reads : readStatement (deletion table ++ " WHERE " ++ clause.text).toList
      (Token.numbered (deletion table ++ " WHERE " ++ clause.text)) =
        .ok (.delete table (some e) [], []) := by
    rw [tokens, readStatement_delete isDelete isFrom isWhere, if_pos isName, read,
      unquoted_of_word isTable]
    rfl
  have parsed := parse_of_spells (spells_deletion named tells)
    (unnamed_deletion table tells.unnamed) rfl reads
  exact ⟨e, meant, by simpa [word, tells.count] using parsed⟩

/-- A removal from a table that is named by a keyword is refused at this name. -/
theorem parse_deletion_reserved (named : isIdentifier table = true)
    (tells : Tells table condition clause ls) (reserved : isReserved table = true) :
    ∃ place, parse (deletion table ++ " WHERE " ++ clause.text) =
      .error ((Problem.unexpected table).at place) := by
  obtain ⟨s, f, n, w, us, tokens, isDelete, isFrom, isWhere, isTable, -, -⟩ :=
    tokens_of_deletion named tells
  have noName : n.isName = false := by rw [isName_of_word isTable, reserved]; rfl
  obtain ⟨kind, text⟩ := of_word isTable
  have begins : s.isSymbol ";" = false := isSymbol_of_isWord isDelete ";"
  refine ⟨n.start, ?_⟩
  rw [parse_eq tokens begins, readStatement_delete isDelete isFrom isWhere,
    if_neg (by rw [noName]; decide)]
  simp [Stop.toFault, kind, text]

/-- A removal of the rows that a clause means that is read removes these rows; its table can then be
named as it is, and the condition can be read. -/
theorem of_parse_deletion (named : isIdentifier table = true)
    (tells : Tells table condition clause ls)
    (read : parse (deletion table ++ " WHERE " ++ clause.text) = .ok parsed) :
    isReserved table = false ∧ condition.IsReadable clause 0 ∧ ∃ e,
      condition.IsMeantBy table clause 0 e ∧
      parsed = ⟨some (.delete table (some e) []), clause.parameters.length,
        deletion table ++ " WHERE " ++ clause.text, []⟩ := by
  obtain ⟨s, f, n, w, us, tokens, isDelete, isFrom, isWhere, isTable, written, numbered⟩ :=
    tokens_of_deletion named tells
  obtain ⟨result, done⟩ := readStatement_of_parse (spells_deletion named tells)
    (unnamed_deletion table tells.unnamed) rfl read
  rw [tokens, readStatement_delete isDelete isFrom isWhere] at done
  split at done
  · next isName =>
    have free : isReserved table = false := by simpa [isName_of_word isTable] using isName
    obtain ⟨b, whole, -⟩ := bind_eq_ok done
    obtain ⟨-, -, readable, -⟩ := tells.of_readWhole written numbered whole
    obtain ⟨e, meant, parsed⟩ := parse_deletion named tells free readable
    exact ⟨free, readable, e, meant, Except.ok.inj (read.symm.trans parsed)⟩
  · cases done

end Removals

section Changes

variable {values : Entries Value}

/-- The tokens of a change of the rows that a clause means do not have names for parameters. -/
theorem unnamed_revision (table : String) (names : List String) (unnamed : Unnamed ls) :
    Unnamed (word "UPDATE" :: backquoted table :: word "SET" ::
      ([comma].intercalate (names.map assignment) ++ word "WHERE" :: ls)) := by
  have marked : Unnamed [mark] := unnamed_markLexemes 1
  have assigned : Unnamed ([comma].intercalate (names.map assignment)) :=
    unnamed_commas fun name _ => unnamed_word name (marked.cons (.inl (by decide)))
  have rest := unnamed_word "SET" (assigned.append (unnamed_word "WHERE" unnamed))
  exact unnamed_word "UPDATE" (rest.cons (.inl (backquoted_ne_parameter table)))

/-- The tokens of a change of the rows that a clause means, with their numbers. -/
theorem tokens_of_revision (named : isIdentifier table = true) (present : values.isEmpty = false)
    (valid : ∀ name ∈ values.names, isIdentifier name = true)
    (tells : Tells table condition clause ls) :
    ∃ s n u as w us, Token.numbered (revision table values ++ " WHERE " ++ clause.text) =
        s :: n :: u :: (as ++ w :: us) ∧
      s.isWord "UPDATE" = true ∧ n.lexeme = backquoted table ∧ u.isWord "SET" = true ∧
      w.isWord "WHERE" = true ∧ as.map lexeme = [comma].intercalate (values.names.map assignment) ∧
      Numbered 0 as ∧ us.map lexeme = ls ∧ Numbered values.names.length us := by
  obtain ⟨written, numbered⟩ := (spells_revision named present valid tells).numbered
    (unnamed_revision table values.names tells.unnamed)
  obtain ⟨s, ts, tokens, isUpdate, written, numbered⟩ := tokens_of_cons (by decide) written numbered
  obtain ⟨n, ts, rfl, isTable, written, numbered⟩ :=
    tokens_of_cons (backquoted_ne_parameter table) written numbered
  obtain ⟨u, ts, rfl, isSet, written, numbered⟩ := tokens_of_cons (by decide) written numbered
  obtain ⟨as, behind, rfl, assigned, written⟩ := List.map_eq_append_iff.1 written
  obtain ⟨numberedFirst, numbered⟩ := numbered_append.1 numbered
  obtain ⟨w, us, rfl, isWhere, written, numbered⟩ := tokens_of_cons (by decide) written numbered
  rw [assigned, parameterCount_assignments, Nat.zero_add] at numbered
  exact ⟨s, n, u, as, w, us, tokens, isWord_keyword isUpdate (by decide), isTable,
    isWord_keyword isSet (by decide), isWord_keyword isWhere (by decide), assigned, numberedFirst,
    written, numbered⟩

/-- A change of the rows that a clause means is read, if its columns can be named as they are and the
condition can be read behind the new values. -/
theorem parse_revision (named : isIdentifier table = true) (present : values.isEmpty = false)
    (valid : ∀ name ∈ values.names, isIdentifier name = true)
    (tells : Tells table condition clause ls) (free : ∀ name ∈ values.names, isReserved name = false)
    (few : values.names.length ≤ 32766)
    (readable : condition.IsReadable clause values.names.length) :
    ∃ e, condition.IsMeantBy table clause values.names.length e ∧
      parse (revision table values ++ " WHERE " ++ clause.text) =
        .ok ⟨some (.update table (assignedMarks 0 values.names) (some e) []),
          values.names.length + clause.parameters.length,
          revision table values ++ " WHERE " ++ clause.text, []⟩ := by
  obtain ⟨s, n, u, as, w, us, tokens, isUpdate, isTable, isSet, isWhere, assigned, numberedFirst,
    written, numbered⟩ := tokens_of_revision named present valid tells
  have given : values.names ≠ [] := by simpa [Entries.isEmpty, Entries.names] using present
  obtain ⟨e, read, meant⟩ := tells.readWhole_eq written numbered readable
  have assignments := readAssignments_of_free given assigned numberedFirst isWhere free
    (by rwa [Nat.zero_add]) us
  have reads : readStatement (revision table values ++ " WHERE " ++ clause.text).toList
      (Token.numbered (revision table values ++ " WHERE " ++ clause.text)) =
        .ok (.update table (assignedMarks 0 values.names) (some e) [], []) := by
    rw [tokens, readStatement_update isUpdate (isName_of_backquoted isTable) isSet, assignments,
      unquoted_of_backquoted named isTable]
    simp only [bind, Except.bind, readCondition_cons isWhere, read]
    rfl
  have parsed := parse_of_spells (spells_revision named present valid tells)
    (unnamed_revision table values.names tells.unnamed) rfl reads
  exact ⟨e, meant, by simpa [word, backquoted, tells.count, parameterCount_assignments] using parsed⟩

/-- A change of the rows that a clause means that is read changes these rows; its columns can then be
named as they are, and the condition can be read behind the new values. -/
theorem of_parse_revision (named : isIdentifier table = true) (present : values.isEmpty = false)
    (valid : ∀ name ∈ values.names, isIdentifier name = true)
    (tells : Tells table condition clause ls)
    (read : parse (revision table values ++ " WHERE " ++ clause.text) = .ok parsed) :
    (∀ name ∈ values.names, isReserved name = false) ∧
      condition.IsReadable clause values.names.length ∧ ∃ e,
      condition.IsMeantBy table clause values.names.length e ∧
      parsed = ⟨some (.update table (assignedMarks 0 values.names) (some e) []),
        values.names.length + clause.parameters.length,
        revision table values ++ " WHERE " ++ clause.text, []⟩ := by
  have spells := spells_revision named present valid tells
  have unnamed := unnamed_revision table values.names tells.unnamed
  have given : values.names ≠ [] := by simpa [Entries.isEmpty, Entries.names] using present
  obtain ⟨s, n, u, as, w, us, tokens, isUpdate, isTable, isSet, isWhere, assigned, numberedFirst,
    written, numbered⟩ := tokens_of_revision named present valid tells
  obtain ⟨result, reads⟩ := readStatement_of_parse spells unnamed rfl read
  have done := reads
  rw [tokens, readStatement_update isUpdate (isName_of_backquoted isTable) isSet,
    unquoted_of_backquoted named isTable] at done
  obtain ⟨a, assignments, done⟩ := bind_eq_ok done
  obtain ⟨free, rfl⟩ := of_readAssignments given assigned numberedFirst isWhere assignments
  rw [readCondition_cons isWhere] at done
  obtain ⟨b, whole, done⟩ := bind_eq_ok done
  obtain ⟨c, whole, same⟩ := bind_eq_ok whole
  obtain ⟨e, rfl, readable, meant⟩ := tells.of_readWhole written numbered whole
  obtain rfl := Except.ok.inj same
  obtain rfl : result = (.update table (assignedMarks 0 values.names) (some e) [], []) :=
    (Except.ok.inj done).symm
  have parsed := parse_of_spells spells unnamed rfl reads
  rw [read] at parsed
  exact ⟨free, readable, e, meant,
    by simpa [word, backquoted, tells.count, parameterCount_assignments] using Except.ok.inj parsed⟩

end Changes

end Call

end Registrar
