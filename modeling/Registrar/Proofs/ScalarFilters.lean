import Registrar.Proofs.JoinTexts
import Registrar.Proofs.Joining
import Registrar.Proofs.Verbs

/-!
# Bare values and joined tables

A bare value as a filter asks for the rows of the first table of a question by their id or their name.
The question writes the column that it means without the name of the table, although it qualifies every
other column.  So the filter means what it means without joins only as long as no joined table has a
column of that name; where one has, as every table that is joined by the id of the first, the store
refuses the question.
-/

namespace Registrar

open Registrar.Text Registrar.Sql Registrar.Sql.Database Call

/-- A joined table of a question is a table of the store, which has the column of the join as the first
table has it. -/
structure JoinClause.Meets (db : Database) {t : Sql.Table} (clause : JoinClause) (p : Partner t) :
    Prop where
  found : db.table? clause.table = some p.table
  named : p.name = clause.alias
  column : p.column = clause.column
  plain : clause.IsPlain

/-- The name and the declared type of a column of the tables of a question. -/
def headingAt (sides : List Side) (pair : String × String) : String × Option String :=
  match locate? pair.1 pair.2 0 sides with
  | some place => (place.2.name, declaredType (some place.2.declared))
  | none => (pair.2, none)

/-- A joined row, as a question for some columns answers it. -/
def joinedRecord (sides : List Side) (pairs : List (String × String))
    (parts : List (Option Sql.Row)) : Registrar.Row :=
  .ofCells (pairs.map (headingAt sides)) (pairs.map fun pair => cellAt pair.1 pair.2 sides parts)

/-- A question that joins tables and asks for columns of them by the names that they go under. -/
structure Question.Joined (db : Database) (question : Question) (t : Sql.Table) (joins : Joins)
    (ps : List (Partner t)) (pairs : List (String × String)) : Prop where
  found : db.table? question.table = some t
  named : IsPlainName question.table
  accepted : (Joins.start question.table).addAll question.joins = .ok joins
  partners : List.Forall₂ (JoinClause.Meets db) joins.clauses ps
  /-- The tables go under names of their own. -/
  apart : (question.table :: joins.aliases).Pairwise fun a b => sameName a b = false
  columns : question.columns = .qualified pairs
  present : pairs ≠ []
  plain : ∀ pair ∈ pairs, isIdentifier pair.1 = true ∧ IsPlainName pair.2
  located : ∀ pair ∈ pairs, (locate? pair.1 pair.2 0 (sidesOf t ps)).isSome = true
  unordered : question.orderBy = []

section Asking

variable {table column : String} {value : Value} {term : Term}

/-- A bare value that may stand bare is accepted as its term. -/
theorem clause_of_bareTerms (only : Condition.bareTerms value = [term]) :
    (Condition.scalar value).clause table = .ok (term.clause table) := by
  show Condition.ofScalar table value = _
  cases value with
  | integer n =>
    obtain rfl := List.singleton_inj.1 only
    rfl
  | text s =>
    cases read : Number.integerText? s with
    | some n =>
      simp only [Condition.bareTerms, read] at only
      obtain rfl := List.singleton_inj.1 only
      simp only [Condition.ofScalar, read, Term.clause]
    | none =>
      cases compares : hasComparator s with
      | true =>
        simp only [Condition.bareTerms, read, compares, if_true] at only
        obtain rfl := List.singleton_inj.1 only
        simp only [Condition.ofScalar, read, compares, if_true, Term.clause]
      | false =>
        simp only [Condition.bareTerms, read, compares, Bool.false_eq_true, if_false] at only
        obtain rfl := List.singleton_inj.1 only
        simp only [Condition.ofScalar, read, compares, Bool.false_eq_true, if_false, Term.clause]
  | _ => cases only

/-- A bare value is compared with a column of the table, as the cell that is bound to a mark. -/
theorem comparison_of_bare (only : Condition.bareTerms value = [term])
    (named : isIdentifier table = true) (asks : term.column? table = some column) :
    IsPlainName column ∧ ∃ asked cell,
      (Condition.scalar value).clause table = .ok ⟨column ++ " = ?", [asked]⟩ ∧
      bindValues 1 [asked] = .ok [cell] ∧ ∀ names env,
        (Condition.scalar value).meaning table names env .and =
          some (columnTruth names env column (.relation .eq) [cell]) := by
  have accepted : (Condition.scalar value).clause table = .ok (term.clause table) :=
    clause_of_bareTerms only
  have means : ∀ names env, (Condition.scalar value).meaning table names env .and =
      some (term.truth table names env) := fun _ _ => Condition.meaning_bare .and only
  cases term with
  | id n =>
    obtain rfl := Option.some.inj asks
    refine ⟨Agrees.isPlainName_append named (by decide) (by decide), .integer n, .integer n, ?_, rfl, means⟩
    rw [accepted, Term.clause, String.append_assoc]
    rfl
  | name s =>
    obtain rfl := Option.some.inj asks
    refine ⟨Agrees.isPlainName_append named (by decide) (by decide), .text s, .text s, ?_, rfl, means⟩
    rw [accepted, Term.clause, String.append_assoc]
    rfl
  | comparison _ _ _ =>
    rcases Condition.bareTerms_cases only with ⟨_, impossible⟩ | ⟨_, impossible⟩ | ⟨_, impossible, -⟩ <;>
      cases impossible
  | fragment _ => cases asks

end Asking

section Building

variable {db : Database} {question : Question} {t : Sql.Table} {joins : Joins} {ps : List (Partner t)}
  {pairs : List (String × String)} {clause : Clause} {condition : Condition}

/-- The text of a question that joins tables to its first and has a condition. -/
def Question.joinedText (pairs : List (String × String)) (joins : Joins) (condition : String) : String :=
  askingText (Columns.qualified pairs).written joins.source (joins.appended ++ (" WHERE " ++ condition)) []

/-- Columns of tables are some columns. -/
theorem text_qualified (present : pairs ≠ []) :
    (Columns.qualified pairs).text = .ok (Columns.qualified pairs).written := by
  have mem : '\x60' ∈ (Columns.qualified pairs).written.toList := by
    obtain ⟨pair, others, rfl⟩ := List.exists_cons_of_ne_nil present
    cases others with
    | nil => simp [Columns.written, Columns.qualifiedName]
    | cons next others => simp [Columns.written, Columns.qualifiedName, String.intercalate_cons_cons]
  have visible : isBlankText (Columns.qualified pairs).written = false :=
    Keeps.all_isBlank_of_mem mem (by decide)
  rw [Columns.text, visible]
  rfl

/-- Tables are joined to the table that a question starts from. -/
theorem Question.Joined.source_eq (joined : question.Joined db t joins ps pairs) :
    joins.source = question.table := by
  obtain ⟨-, rfl⟩ := Joins.addAll_eq_ok_iff.1 joined.accepted
  rfl

/-- The statement of a question that joins tables and has a condition. -/
theorem Question.Joined.statement_eq (joined : question.Joined db t joins ps pairs)
    (filter : question.filter = some condition)
    (accepted : condition.clause question.table = .ok clause) (speaks : clause.isEmpty = false) :
    question.statement = .ok ⟨Question.joinedText pairs joins clause.text, clause.parameters⟩ := by
  have named : identifier question.table = .ok question.table :=
    identifier_eq_ok_iff.2 ⟨rfl, joined.named.1⟩
  have columns : question.columns.text = .ok (Columns.qualified pairs).written := by
    rw [joined.columns, text_qualified joined.present]
  have filtered : question.filterClause = .ok (some clause) := by
    simp only [Question.filterClause, filter, accepted, speaks, bind, Except.bind, Bool.false_eq_true,
      if_false]
  have ordered : identifiers question.orderBy = .ok [] := by
    rw [joined.unordered]
    rfl
  have text : "SELECT " ++ (Columns.qualified pairs).written ++ " FROM " ++ question.table ++
      joins.appended ++ (" WHERE " ++ clause.text) ++ "" =
        Question.joinedText pairs joins clause.text := by
    simp only [Question.joinedText, joined.source_eq, askingText, String.append_assoc]
    rfl
  simp only [Question.statement, named, columns, joined.accepted, filtered, ordered, bind, Except.bind]
  exact congrArg (fun text => Except.ok (Statement.mk text clause.parameters)) text

end Building

section Answering

variable {db : Database} {question : Question} {t : Sql.Table} {joins : Joins} {ps : List (Partner t)}
  {pairs : List (String × String)} {clauses : List JoinClause} {sources : List Source}

/-- The names that joined tables go under. -/
theorem names_of_meets (partners : List.Forall₂ (JoinClause.Meets db) clauses ps) :
    ps.map (fun p => p.name) = clauses.map JoinClause.alias := by
  induction partners with
  | nil => rfl
  | cons meets _ ih => rw [List.map_cons, List.map_cons, meets.named, ih]

/-- The tables that a question joins are tables of the store. -/
theorem found_of_meets (partners : List.Forall₂ (JoinClause.Meets db) clauses ps) :
    ∀ p ∈ ps, ∃ name, db.table? name = some p.table := by
  induction partners with
  | nil =>
    intro p mem
    cases mem
  | @cons clause _ _ _ meets _ ih => exact List.forall_mem_cons.2 ⟨⟨clause.table, meets.found⟩, ih⟩

/-- The tables that a question joins can be named as they are. -/
theorem plain_of_meets (partners : List.Forall₂ (JoinClause.Meets db) clauses ps) :
    ∀ clause ∈ clauses, clause.IsPlain := by
  induction partners with
  | nil => exact nofun
  | cons meets _ ih => exact List.forall_mem_cons.2 ⟨meets.plain, ih⟩

/-- What joined tables are read as joins these tables. -/
theorem joins_of_meets {given : String} (partners : List.Forall₂ (JoinClause.Meets db) clauses ps)
    (reads : List.Forall₂ (fun clause source => clause.IsReadAs given source) clauses sources) :
    List.Forall₂ (Source.Joins db given) sources ps := by
  induction partners generalizing sources with
  | nil =>
    cases reads
    exact .nil
  | @cons clause p _ _ meets _ ih =>
    cases reads with
    | cons own others =>
      refine .cons ⟨?_, own.kind, ?_, own.unshared, ?_⟩ (ih others)
      · rw [own.table]
        exact find?_of_table? meets.found
      · rw [own.named, meets.named]
      · rw [meets.named, meets.column]
        exact own.on

/-- The tables of a question are sound, and have names of their own. -/
theorem Question.Joined.separate (joined : question.Joined db t joins ps pairs) (sound : db.Sound) :
    Separate (sidesOf t ps) := by
  have own : sameName t.name question.table = true := name_of_table? joined.found
  obtain ⟨first, others⟩ := List.pairwise_cons.1 joined.apart
  rw [Joins.aliases, ← names_of_meets joined.partners] at first others
  refine ⟨List.pairwise_cons.2 ⟨?_, ?_⟩, List.forall_mem_cons.2 ⟨?_, ?_⟩⟩
  · refine List.forall_mem_map.2 fun p mem => ?_
    exact (sameName_congr own p.name).trans (first p.name (List.mem_map_of_mem mem))
  · rw [List.pairwise_map] at others ⊢
    exact others
  · exact (sound.of_table? joined.found).1
  · refine List.forall_mem_map.2 fun p mem => ?_
    obtain ⟨name, found⟩ := found_of_meets joined.partners p mem
    exact (sound.of_table? found).1

/-- Columns that are found have places. -/
theorem places_of_located {sides : List Side}
    (located : ∀ pair ∈ pairs, (locate? pair.1 pair.2 0 sides).isSome = true) :
    ∃ places, List.Forall₂ (fun pair place => locate? pair.1 pair.2 0 sides = some place) pairs places ∧
      places.map (fun place => (place.2.name, declaredType (some place.2.declared))) =
        pairs.map (headingAt sides) := by
  induction pairs with
  | nil => exact ⟨[], .nil, rfl⟩
  | cons pair pairs ih =>
    obtain ⟨own, others⟩ := List.forall_mem_cons.1 located
    obtain ⟨place, here⟩ := Option.isSome_iff_exists.1 own
    obtain ⟨places, found, headings⟩ := ih others
    refine ⟨place :: places, .cons here found, ?_⟩
    rw [List.map_cons, List.map_cons, headings, headingAt, here]

/-- A question that joins tables and compares one column with a value is planned once the column means
something among all tables, unless there are too many tables. -/
theorem Question.Joined.planned (joined : question.Joined db t joins ps pairs) (sound : db.Sound)
    {column : String} (compared : IsPlainName column) :
    let text := Question.joinedText pairs joins (column ++ " = ?")
    ∃ query start places, parse text = .ok ⟨some (.select query), 1, text, []⟩ ∧
      List.Forall₂ (fun pair place => locate? pair.1 pair.2 0 (sidesOf t ps) = some place) pairs
        places ∧
      places.map (fun place => (place.2.name, declaredType (some place.2.declared))) =
        pairs.map (headingAt (sidesOf t ps)) ∧
      db.plan query = ((joinNames t ps).resolve
          (.binary .eq (.column none column false start) (.parameter 1)) >>= fun r =>
        if mostJoined < ps.length + 1 then .error (Problem.joinedTables mostJoined).bare
        else .ok (joinPlan t ps places r)) := by
  intro text
  have source := joined.source_eq
  obtain ⟨outputs, sources, start, asks, reads, read⟩ := parse_joined (source ▸ joined.named)
    (plain_of_meets joined.partners) joined.present joined.plain compared
  obtain ⟨places, located, headings⟩ := places_of_located joined.located
  refine ⟨_, start, places, read, located, headings, ?_⟩
  exact plan_joined (find?_of_table? (source ▸ joined.found)) (source ▸ name_of_table? joined.found)
    (joined.separate sound) (joins_of_meets joined.partners reads) asks located _

/-- Whether a bare value asks for a row is whether the row has a cell in the column. -/
theorem selects_bare {table column : String} {value : Value} {cell : Cell} {place : Nat × Column}
    (means : ∀ names env, (Condition.scalar value).meaning table names env .and =
      some (columnTruth names env column (.relation .eq) [cell]))
    (apart : t.columns.Pairwise fun c d => sameName c.name d.name = false)
    (found : t.place? column = some place) (row : Sql.Row) :
    (Condition.scalar value).selects table t row =
      ((Comparator.relation .eq).truth (t.operand row.slots column) [cell] == some true) := by
  have known : (targetColumn t column).isSome = true := by
    obtain ⟨i, index, -⟩ := Option.bind_eq_some_iff.1 found
    rw [targetColumn, index]
    rfl
  have alone : t.names.areas = [t.area t.name 0] := rfl
  rw [Condition.selects, means, columnTruth_of_operand (operand?_of_known alone apart known _)]
  rfl

end Answering

section Filtering

variable {session : Session} {question : Question} {t : Sql.Table} {joins : Joins}
  {ps : List (Partner t)} {pairs : List (String × String)} {value : Value} {term : Term}
  {column : String} {statement : Statement} {query : Select} {cell : Cell} {start : Nat}
  {places : List (Nat × Column)} {place : Nat × Column}

/-- What a question is asked as that joins tables and compares one column with a value: a statement, the
query that it is read as, and what this query is planned as. -/
structure Question.IsAsked (session : Session) (question : Question) (ps : List (Partner t))
    (pairs : List (String × String)) (column : String) (statement : Statement) (query : Select)
    (cell : Cell) (start : Nat) (places : List (Nat × Column)) : Prop where
  built : question.statement = .ok statement
  read : parse statement.text = .ok ⟨some (.select query), 1, statement.text, []⟩
  bound : bindValues 1 statement.parameters = .ok [cell]
  located : List.Forall₂ (fun pair place => locate? pair.1 pair.2 0 (sidesOf t ps) = some place) pairs
    places
  headings : places.map (fun place => (place.2.name, declaredType (some place.2.declared))) =
    pairs.map (headingAt (sidesOf t ps))
  planned : session.store.database.plan query = ((joinNames t ps).resolve
      (.binary .eq (.column none column false start) (.parameter 1)) >>= fun r =>
    if mostJoined < ps.length + 1 then .error (Problem.joinedTables mostJoined).bare
    else .ok (joinPlan t ps places r))

/-- A question with a bare value as its filter is asked as the comparison of a column. -/
theorem Question.Joined.isAsked (joined : question.Joined session.store.database t joins ps pairs)
    (sound : session.store.database.Sound) (filter : question.filter = some (.scalar value))
    (bare : Condition.bareTerms value = [term]) (asks : term.column? question.table = some column) :
    ∃ statement query cell start places,
      question.IsAsked session ps pairs column statement query cell start places ∧
      ∀ names env, (Condition.scalar value).meaning question.table names env .and =
        some (columnTruth names env column (.relation .eq) [cell]) := by
  obtain ⟨plain, asked, cell, accepted, bound, means⟩ :=
    comparison_of_bare bare joined.named.1 asks
  have speaks : (Clause.mk (column ++ " = ?") [asked]).isEmpty = false :=
    Clause.isBlankText_append_of_right column (by decide)
  obtain ⟨query, start, places, read, located, headings, planned⟩ := joined.planned sound plain
  exact ⟨_, query, cell, start, places, ⟨joined.statement_eq filter accepted speaks, read, bound,
    located, headings, planned⟩, means⟩

namespace Question.IsAsked

/-- The comparison of a column of the first table alone chooses its rows, whatever is joined to them, and
each of them is there at least once. -/
theorem outcome_alone {keep : Sql.Row → Bool}
    (asked : question.IsAsked session ps pairs column statement query cell start places)
    (separate : Separate (sidesOf t ps)) (found : t.place? column = some place)
    (alone : ∀ p ∈ ps, p.table.columnIndex? column = none) (few : ps.length < mostJoined)
    (keeps : ∀ row, keep row =
      ((Comparator.relation .eq).truth (t.operand row.slots column) [cell] == some true)) :
    ∃ entries : List (Sql.Row × List (Option Sql.Row)),
      entries.Perm ((t.joinedRows ps).filter fun entry => keep entry.1) ∧
      (∀ row ∈ t.rows.filter keep, ∃ parts, (row, parts) ∈ entries) ∧
      (select question).outcome session = (.ok (entries.map fun entry =>
          joinedRecord (sidesOf t ps) pairs (some entry.1 :: entry.2)),
        session.afterAsking statement) := by
  have sound : t.Sound := separate.sound _ List.mem_cons_self
  have planned := asked.planned
  rw [resolve_bare separate found alone] at planned
  have planned : session.store.database.plan query =
      .ok (joinPlan t ps places (.binary .eq (slotAt place) (.parameter 1))) := by
    rw [planned]
    exact if_neg (Nat.not_lt.2 few)
  have bound : (session.store.env [cell]).parameters[1 - 1]? = some cell := rfl
  have each : ∀ row ∈ t.rows, ∀ behind, (Expr.binary .eq (slotAt place) (.parameter 1)).holds
      ((session.store.env [cell]).ofRow (row.slots ++ behind)) = .ok (keep row) := by
    intro row mem behind
    rw [keeps]
    exact holds_bare (sound.rows row mem) found bound behind
  obtain ⟨entries, chosen, ran⟩ := run_joinPlan separate asked.located each
  refine ⟨entries, chosen, fun row mem => ?_, ?_⟩
  · obtain ⟨among, kept⟩ := List.mem_filter.1 mem
    obtain ⟨parts, beside⟩ := exists_joined among ps
    exact ⟨parts, chosen.mem_iff.2 (List.mem_filter.2 ⟨beside, kept⟩)⟩
  · rw [outcome_select_of_run asked.built asked.read planned asked.bound ran, asked.headings,
      Row.ofAnswer, List.map_map]
    rfl

/-- The comparison of a column that a joined table has, too, is refused. -/
theorem outcome_shared
    (asked : question.IsAsked session ps pairs column statement query cell start places)
    (separate : Separate (sidesOf t ps)) (found : t.place? column = some place) {p : Partner t}
    (among : p ∈ ps) (shared : p.table.columnIndex? column ≠ none) :
    ∃ place, (select question).outcome session =
      (.error (.storage (.statement ⟨.ambiguousColumn column, place, statement.text⟩)),
        session.afterAsking statement) := by
  have planned := asked.planned
  rw [resolve_shared separate found among shared, Names.fault] at planned
  split at planned
  · exact ⟨_, outcome_select_of_unplanned asked.built asked.read planned⟩
  · exact ⟨_, outcome_select_of_unplanned asked.built asked.read planned⟩

/-- A question that joins too many tables is refused. -/
theorem outcome_many
    (asked : question.IsAsked session ps pairs column statement query cell start places)
    (separate : Separate (sidesOf t ps)) (found : t.place? column = some place)
    (alone : ∀ p ∈ ps, p.table.columnIndex? column = none) (many : mostJoined ≤ ps.length) :
    ∃ f, (select question).outcome session = (.error f, session.afterAsking statement) := by
  have planned := asked.planned
  rw [resolve_bare separate found alone] at planned
  have planned : session.store.database.plan query = .error (Problem.joinedTables mostJoined).bare := by
    rw [planned]
    exact if_pos (Nat.lt_succ_of_le many)
  exact ⟨_, outcome_select_of_unplanned asked.built asked.read planned⟩

end Question.IsAsked

/-- A bare value as a filter of a question that joins tables asks for rows of the first table, by the
column that holds their ids or their names.  The question succeeds exactly if no joined table has a
column of this name and there are no more tables than a question may join.  Then it is answered with the
joined rows of those rows of the first table that the value asks for, each of them at least once.  Where
a joined table has a column of this name, the question is refused, for it does not say whose column it
means. -/
theorem scalar_filters_first_table_iff (reached : session.store.Reached)
    (joined : question.Joined session.store.database t joins ps pairs)
    (filter : question.filter = some (.scalar value)) (bare : Condition.bareTerms value = [term])
    (asks : term.column? question.table = some column)
    (has : (t.columnIndex? column).isSome = true) :
    ∃ statement, question.statement = .ok statement ∧
      ((∃ rows, (select question).outcome session = (.ok rows, session.afterAsking statement)) ↔
        (∀ p ∈ ps, p.table.columnIndex? column = none) ∧ ps.length < mostJoined) ∧
      ((∀ p ∈ ps, p.table.columnIndex? column = none) → ps.length < mostJoined →
        ∃ entries : List (Sql.Row × List (Option Sql.Row)),
          entries.Perm ((t.joinedRows ps).filter fun entry =>
            (Condition.scalar value).selects question.table t entry.1) ∧
          (∀ row ∈ (Condition.scalar value).chosen question.table t,
            ∃ parts, (row, parts) ∈ entries) ∧
          (select question).outcome session = (.ok (entries.map fun entry =>
              joinedRecord (sidesOf t ps) pairs (some entry.1 :: entry.2)),
            session.afterAsking statement)) ∧
      ((∃ p ∈ ps, p.table.columnIndex? column ≠ none) →
        ∃ place, (select question).outcome session =
          (.error (.storage (.statement ⟨.ambiguousColumn column, place, statement.text⟩)),
            session.afterAsking statement)) := by
  have sound := reached.sound.database
  have separate := joined.separate sound
  obtain ⟨i, index⟩ := Option.isSome_iff_exists.1 has
  obtain ⟨c, here⟩ := getElem?_of_columnIndex? index
  have found : t.place? column = some (i, c) := by
    rw [Table.place?, index, Option.bind_some, here]
    rfl
  have apart := (sound.of_table? joined.found).1.columns.apart
  obtain ⟨statement, query, cell, start, places, asked, means⟩ := joined.isAsked sound filter bare asks
  have refused : (∃ p ∈ ps, p.table.columnIndex? column ≠ none) →
      ∃ place, (select question).outcome session =
        (.error (.storage (.statement ⟨.ambiguousColumn column, place, statement.text⟩)),
          session.afterAsking statement) := by
    rintro ⟨p, among, shared⟩
    exact asked.outcome_shared separate found among shared
  have answered : (∀ p ∈ ps, p.table.columnIndex? column = none) → ps.length < mostJoined →
      ∃ entries : List (Sql.Row × List (Option Sql.Row)),
        entries.Perm ((t.joinedRows ps).filter fun entry =>
          (Condition.scalar value).selects question.table t entry.1) ∧
        (∀ row ∈ (Condition.scalar value).chosen question.table t,
          ∃ parts, (row, parts) ∈ entries) ∧
        (select question).outcome session = (.ok (entries.map fun entry =>
            joinedRecord (sidesOf t ps) pairs (some entry.1 :: entry.2)),
          session.afterAsking statement) := by
    intro alone few
    exact asked.outcome_alone separate found alone few (selects_bare means apart found)
  refine ⟨statement, asked.built, ⟨fun success => ?_, fun meets => ?_⟩, answered, refused⟩
  · obtain ⟨rows, success⟩ := success
    have alone : ∀ p ∈ ps, p.table.columnIndex? column = none := by
      intro p among
      by_contra shared
      obtain ⟨place, failure⟩ := refused ⟨p, among, shared⟩
      rw [success] at failure
      cases failure
    refine ⟨alone, Nat.lt_of_not_le fun many => ?_⟩
    obtain ⟨f, failure⟩ := asked.outcome_many separate found alone many
    rw [success] at failure
    cases failure
  · obtain ⟨entries, -, -, outcome⟩ := answered meets.1 meets.2
    exact ⟨_, outcome⟩

end Filtering

section Loans

/-- The declaration of a table of books. -/
def booksText : String :=
  "CREATE TABLE books (books_id INTEGER PRIMARY KEY, books_val TEXT)"

/-- The declaration of a table of the loans of books. -/
def loansText : String :=
  "CREATE TABLE loans (loans_id INTEGER PRIMARY KEY, books_id INTEGER)"

/-- A table of books. -/
def booksTable (rows : List Sql.Row) : Sql.Table :=
  ⟨"books", [⟨"books_id", "INTEGER", .integer, .binary, false, 1, none⟩,
    ⟨"books_val", "TEXT", .text, .binary, false, 0, none⟩], some 0, false, [], [], [], rows, booksText⟩

/-- A table of the loans of books. -/
def loansTable (rows : List Sql.Row) : Sql.Table :=
  ⟨"loans", [⟨"loans_id", "INTEGER", .integer, .binary, false, 1, none⟩,
    ⟨"books_id", "INTEGER", .integer, .binary, false, 0, none⟩], some 0, false, [], [], [], rows, loansText⟩

/-- Two books. -/
def shelf : Sql.Table :=
  booksTable [⟨1, [.integer 1, .text "Dune"]⟩, ⟨2, [.integer 2, .text "Emma"]⟩]

/-- A loan of the first of two books. -/
def lent : Sql.Table :=
  loansTable [⟨1, [.integer 1, .integer 1]⟩]

/-- A store of books and their loans. -/
def library : Session :=
  ⟨⟨⟨[.table shelf, .table lent]⟩, none, true, 1, 1⟩, []⟩

/-- The names of two books, as a statement gives them. -/
def shelfValues : List (List Expr) :=
  [[.literal (.text "Dune")], [.literal (.text "Emma")]]

/-- There can be such a store. -/
theorem reached_library : library.store.Reached := by
  have books : (Store.opened .empty).prepare booksText (.createTable ⟨"books", "books", 13⟩ false
      [⟨"books_id", "INTEGER", [.primaryKey false false]⟩, ⟨"books_val", "TEXT", []⟩] []) =
        .ok (.become ⟨[.table (booksTable [])]⟩) := rfl
  have first : (Store.opened .empty).run [] (.become ⟨[.table (booksTable [])]⟩) =
      .ok (.none, .opened ⟨[.table (booksTable [])]⟩) := rfl
  have loans : (Store.opened ⟨[.table (booksTable [])]⟩).prepare loansText
      (.createTable ⟨"loans", "loans", 13⟩ false
        [⟨"loans_id", "INTEGER", [.primaryKey false false]⟩, ⟨"books_id", "INTEGER", []⟩] []) =
        .ok (.become ⟨[.table (booksTable []), .table (loansTable [])]⟩) := rfl
  have second : (Store.opened ⟨[.table (booksTable [])]⟩).run []
      (.become ⟨[.table (booksTable []), .table (loansTable [])]⟩) =
        .ok (.none, .opened ⟨[.table (booksTable []), .table (loansTable [])]⟩) := rfl
  have shelves : (Store.opened ⟨[.table (booksTable []), .table (loansTable [])]⟩).prepare ""
      (.insert "books" (some ["books_val"]) (.values shelfValues) []) =
        .ok (.insert ⟨"books", [some 1], shelfValues, []⟩) := rfl
  have shelved : (Store.opened ⟨[.table (booksTable []), .table (loansTable [])]⟩).run []
      (.insert ⟨"books", [some 1], shelfValues, []⟩) =
        .ok (.none, ⟨⟨[.table shelf, .table (loansTable [])]⟩, none, true, 2, 2⟩) := rfl
  have lends : (Store.mk ⟨[.table shelf, .table (loansTable [])]⟩ none true 2 2).prepare ""
      (.insert "loans" (some ["books_id"]) (.values [[.literal (.integer 1)]]) []) =
        .ok (.insert ⟨"loans", [some 1], [[.literal (.integer 1)]], []⟩) := rfl
  have lending : (Store.mk ⟨[.table shelf, .table (loansTable [])]⟩ none true 2 2).run []
      (.insert ⟨"loans", [some 1], [[.literal (.integer 1)]], []⟩) = .ok (.none, library.store) := rfl
  exact .ran (.ran (.ran (.ran .opened books first) loans second) shelves shelved) lends lending

/-- The columns of books and loans that are asked for. -/
def lentColumns : List (String × String) :=
  [("books", "books_val"), ("loans0", "loans_id")]

/-- The question for books and their loans. -/
def lendings (value : Value) : Question :=
  ⟨"books", .qualified lentColumns, [.on (Entries.ofList [("loans", "books_id")])],
    some (.scalar value), []⟩

/-- The loans of the books that are joined to them. -/
def lentPartner : Partner shelf :=
  ⟨⟨"loans0", lent⟩, "books_id", (0, ⟨"books_id", "INTEGER", .integer, .binary, false, 1, none⟩),
    (1, ⟨"books_id", "INTEGER", .integer, .binary, false, 0, none⟩), rfl, rfl⟩

/-- Loans are joined to books by the id of the book. -/
theorem joined_lendings (value : Value) :
    (lendings value).Joined library.store.database shelf ⟨"books", 1, [⟨"loans", 0, "books_id"⟩]⟩
      [lentPartner] lentColumns := by
  have meets : JoinClause.Meets library.store.database ⟨"loans", 0, "books_id"⟩ lentPartner :=
    ⟨rfl, rfl, rfl, ⟨by decide, by decide⟩⟩
  have found : library.store.database.table? "books" = some shelf := rfl
  have named : IsPlainName "books" := by decide
  have apart : ["books", "loans0"].Pairwise fun a b => sameName a b = false := by decide
  exact ⟨found, named, rfl, .cons meets .nil, apart, rfl, List.cons_ne_nil _ _, by decide,
    by decide, rfl⟩

/-- Books that are joined to their loans are found by their name.  They cannot be asked for by their id,
for the loans have a column of this name, too: that is what they are joined by. -/
theorem scalar_filters_first_table_iff_lendings :
    (∃ after, (select (lendings (.text "Dune"))).outcome library =
      (.ok [.ofCells [("books_val", some "TEXT"), ("loans_id", some "INTEGER")]
        [.text "Dune", .integer 1]], after)) ∧
    ∃ place text after, (select (lendings (.integer 1))).outcome library =
      (.error (.storage (.statement ⟨.ambiguousColumn "books_id", place, text⟩)), after) := by
  refine ⟨?_, ?_⟩
  · have bare : Condition.bareTerms (.text "Dune") = [.name "Dune"] := rfl
    have asks : (Term.name "Dune").column? "books" = some "books_val" := rfl
    obtain ⟨statement, -, -, answered, -⟩ := scalar_filters_first_table_iff reached_library
      (joined_lendings (.text "Dune")) rfl bare asks (by decide)
    obtain ⟨entries, chosen, -, outcome⟩ := answered (by decide) (by decide)
    have rows : ((shelf.joinedRows [lentPartner]).filter fun entry =>
        (Condition.scalar (.text "Dune")).selects "books" shelf entry.1) =
          [(⟨1, [.integer 1, .text "Dune"]⟩, [some ⟨1, [.integer 1, .integer 1]⟩])] := by
      decide +kernel
    obtain rfl := List.perm_singleton.1 (chosen.trans (.of_eq rows))
    exact ⟨_, outcome.trans rfl⟩
  · have bare : Condition.bareTerms (.integer 1) = [.id 1] := rfl
    have asks : (Term.id 1).column? "books" = some "books_id" := rfl
    obtain ⟨statement, -, -, -, refused⟩ := scalar_filters_first_table_iff reached_library
      (joined_lendings (.integer 1)) rfl bare asks (by decide)
    obtain ⟨place, outcome⟩ := refused ⟨lentPartner, List.mem_cons_self, by decide⟩
    exact ⟨place, statement.text, _, outcome⟩

end Loans

end Registrar
