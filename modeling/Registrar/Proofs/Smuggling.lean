import Registrar.Proofs.Binding
import Registrar.Proofs.Filter.Harmless

/-!
# Names in statements

A question, a change and a removal take over the names of tables and columns as they are, and refuse
those that are no identifiers before any statement is built.  Where all names are identifiers and a
condition only compares identifiers, the text of the statement holds nothing but harmless characters,
except for the backquotes around the table of a change; so it quotes nothing and ends nowhere before its
end.
-/

namespace Registrar

open Registrar.Text
open Registrar.Sql (conditionWords)

/-! ## Names -/

/-- What only refuses arguments and has no result refuses one as invalid. -/
theorem Rejects.invalid {α : Type} {x : Except Failure α} (rejects : Rejects x)
    (none : ∀ a, x ≠ .ok a) : Call.Invalid x := by
  cases x with
  | ok a => exact absurd rfl (none a)
  | error f =>
    obtain ⟨rejection, rfl⟩ := rejects f rfl
    exact ⟨_, rfl, rfl⟩

/-- The names that a join takes over. -/
def Join.names : Join → List String
  | .on entries => entries.pairs.flatMap fun pair => [pair.1, pair.2]
  | .tables names => names

/-- Whether a join has columns, and only identifiers for names. -/
def Join.IsNamed : Join → Prop
  | .on entries => ∀ pair ∈ entries.pairs, isIdentifier pair.1 = true ∧ isIdentifier pair.2 = true
  | .tables _ => False

/-- A join has only identifiers for names if it has columns and its names are identifiers. -/
theorem Join.isNamed_iff {join : Join} : join.IsNamed ↔
    (∃ entries, join = .on entries) ∧ ∀ name ∈ join.names, isIdentifier name = true := by
  cases join with
  | on entries =>
    rw [and_iff_right ⟨entries, rfl⟩]
    simp only [IsNamed, names, List.forall_mem_flatMap, List.forall_mem_cons, List.not_mem_nil,
      false_implies, implies_true, and_true]
  | tables names => exact iff_of_false id fun both => nomatch both.1

/-- A join is refused unless it has columns and only identifiers for names. -/
theorem Join.refusal_eq_none_iff_isNamed {join : Join} : join.refusal = none ↔ join.IsNamed := by
  cases join with
  | on entries => simp only [refusal, refusalOf_eq_none_iff, isJoinable_iff, IsNamed]
  | tables names => exact iff_of_false (Option.some_ne_none _) id

namespace Joins

/-- Joins are added if they have columns and their names are identifiers. -/
theorem addAll_iff {joins : Joins} {added : List Join} :
    (∃ after, joins.addAll added = .ok after) ↔ ∀ join ∈ added, join.IsNamed := by
  simp only [addAll_eq_ok_iff, exists_and_left, exists_eq', and_true, Join.refusal_eq_none_iff_isNamed]

end Joins

namespace Question

variable {question : Question}

/-- The names that a question takes over, apart from those of its columns and its filter. -/
def names (question : Question) : List String :=
  question.table :: question.joins.flatMap Join.names ++ question.orderBy

/-- The terms of the filter of a question. -/
def terms (question : Question) : List Term :=
  question.filter.elim [] Condition.terms

/-- A question is built if its names are identifiers, its columns and its filter are accepted, and its
joins have columns. -/
theorem built_iff : (∃ statement, question.statement = .ok statement) ↔
    (∀ name ∈ question.names, isIdentifier name = true) ∧
      (∃ columns, question.columns.text = .ok columns) ∧
      (∀ join ∈ question.joins, ∃ entries, join = .on entries) ∧
      ∃ clause, question.filterClause = .ok clause := by
  have parts : (∀ name ∈ question.names, isIdentifier name = true) ↔
      isIdentifier question.table = true ∧
        (∀ join ∈ question.joins, ∀ name ∈ join.names, isIdentifier name = true) ∧
        ∀ name ∈ question.orderBy, isIdentifier name = true := by
    simp only [names, List.forall_mem_append, List.forall_mem_cons, List.forall_mem_flatMap, and_assoc]
  rw [parts]
  constructor
  · rintro ⟨statement, built⟩
    obtain ⟨table, named, built⟩ := bind_eq_ok built
    obtain ⟨columns, written, built⟩ := bind_eq_ok built
    obtain ⟨joins, added, built⟩ := bind_eq_ok built
    obtain ⟨clause, filtered, built⟩ := bind_eq_ok built
    obtain ⟨orderBy, known, -⟩ := bind_eq_ok built
    have joined : ∀ join ∈ question.joins, join.IsNamed := Joins.addAll_iff.1 ⟨joins, added⟩
    exact ⟨⟨(identifier_eq_ok_iff.1 named).2, fun join mem => (Join.isNamed_iff.1 (joined join mem)).2,
      (identifiers_eq_ok_iff.1 known).2⟩, ⟨columns, written⟩,
      fun join mem => (Join.isNamed_iff.1 (joined join mem)).1, clause, filtered⟩
  · rintro ⟨⟨valid, joined, all⟩, ⟨columns, written⟩, keyed, clause, filtered⟩
    have named : identifier question.table = .ok question.table := identifier_eq_ok_iff.2 ⟨rfl, valid⟩
    have known : identifiers question.orderBy = .ok question.orderBy :=
      identifiers_eq_ok_iff.2 ⟨rfl, all⟩
    obtain ⟨joins, added⟩ : ∃ joins, (Joins.start question.table).addAll question.joins = .ok joins :=
      Joins.addAll_iff.2 fun join mem => Join.isNamed_iff.2 ⟨keyed join mem, joined join mem⟩
    simp only [statement, named, written, added, filtered, known, bind, Except.bind,
      Except.ok.injEq, exists_eq']

end Question

namespace Call

variable {table : String} {values : Entries Value} {condition : Condition} {statement : Statement}

/-- A change is built if its names are identifiers, it gives a value, and its condition is accepted and
says something. -/
theorem built_updateStatement_iff :
    (∃ statement, updateStatement table values condition = .ok statement) ↔
      (∀ name ∈ table :: values.names, isIdentifier name = true) ∧ values.isEmpty = false ∧
        ∃ clause, condition.clause table = .ok clause ∧ clause.isEmpty = false := by
  constructor
  · rintro ⟨statement, built⟩
    obtain ⟨clause, valid, some, names, accepted, speaks, -⟩ := built_updateStatement built
    exact ⟨List.forall_mem_cons.2 ⟨valid, names⟩, some, clause, accepted, speaks⟩
  · rintro ⟨names, some, clause, accepted, speaks⟩
    obtain ⟨valid, names⟩ := List.forall_mem_cons.1 names
    have named : identifier table = .ok table := identifier_eq_ok_iff.2 ⟨rfl, valid⟩
    have known : identifiers values.names = .ok values.names := identifiers_eq_ok_iff.2 ⟨rfl, names⟩
    simp [updateStatement, named, some, accepted, speaks, known, bind, Except.bind]

/-- A removal is built if the name of its table is an identifier, and its condition is accepted and says
something. -/
theorem built_deleteStatement_iff :
    (∃ statement, deleteStatement table (some condition) = .ok statement) ↔
      isIdentifier table = true ∧
        ∃ clause, condition.clause table = .ok clause ∧ clause.isEmpty = false := by
  constructor
  · rintro ⟨statement, built⟩
    obtain ⟨given, clause, same, valid, accepted, speaks, -⟩ := built_deleteStatement built
    obtain rfl := Option.some.inj same
    exact ⟨valid, clause, accepted, speaks⟩
  · rintro ⟨valid, clause, accepted, speaks⟩
    have named : identifier table = .ok table := identifier_eq_ok_iff.2 ⟨rfl, valid⟩
    simp [deleteStatement, named, accepted, speaks, bind, Except.bind]

end Call

/-! ## Texts -/

/-- A text holds no quotation. -/
def Unquoted (text : String) : Prop :=
  ∀ c ∈ text.toList, c ∉ quotes

/-- A text ends no statement and begins no comment. -/
structure Unbroken (text : String) : Prop where
  semicolon : ';' ∉ text.toList
  lineComment : occursIn "--".toList text.toList = false
  blockComment : occursIn "/*".toList text.toList = false

/-- A text is one statement and nothing else, where it is read. -/
def IsSingle (text : String) : Prop :=
  ∀ parsed, Sql.parse text = .ok parsed →
    ∃ statement, parsed.statement = some statement ∧ parsed.source = text ∧ parsed.rest = []

/-- What begins with a character does not occur where the character does not. -/
theorem occursIn_of_not_mem {c : Char} {part cs : List Char} (absent : c ∉ cs) :
    occursIn (c :: part) cs = false := by
  induction cs with
  | nil => rfl
  | cons d cs ih =>
    rw [List.mem_cons, not_or] at absent
    have other : (c == d) = false := beq_false_of_ne absent.1
    rw [occursIn, List.isPrefixOf, other, ih absent.2]
    rfl

/-- A text without characters that stop anything is unbroken. -/
theorem unbroken_of_stops {text : String} (none : ∀ c ∈ text.toList, c ∉ stops) : Unbroken text where
  semicolon := fun mem => none _ mem (by decide)
  lineComment := occursIn_of_not_mem fun mem => none _ mem (by decide)
  blockComment := occursIn_of_not_mem fun mem => none _ mem (by decide)

namespace Harmless

variable {text : String}

/-- A harmless text holds no quotation. -/
theorem unquoted (harmless : Harmless text) : Unquoted text :=
  fun c mem quote => harmless c mem (List.mem_append_left stops quote)

/-- A harmless text is unbroken. -/
theorem unbroken (harmless : Harmless text) : Unbroken text :=
  unbroken_of_stops fun c mem stop => harmless c mem (List.mem_append_right quotes stop)

end Harmless

/-- An unbroken text of a question, a change or a removal is a single one. -/
theorem Unbroken.single {text word : String} {rest : List Char} (unbroken : Unbroken text)
    (known : word ∈ conditionWords) (begins : text.toList = word.toList ++ ' ' :: rest) :
    IsSingle text := by
  intro parsed read
  obtain ⟨statement, rfl⟩ :=
    Sql.whole_of_parse (Sql.unended_of_not_mem unbroken.semicolon) known begins read
  exact ⟨statement, rfl, rfl, rfl⟩

/-- A silent addition is harmless. -/
theorem Trails.harmless {trail : String} (trails : Trails trail) : Harmless trail := by
  rcases trails with rfl | ⟨part, rfl, silent⟩
  · exact nofun
  · exact (show Harmless " " by decide).append (.of_silent silent)

namespace Question

variable {question : Question} {statement : Statement}

/-- A question for all columns by a filter that compares identifiers is harmless. -/
theorem harmless_statement (built : question.statement = .ok statement)
    (columns : question.columns = .all) (named : ∀ term ∈ question.terms, term.IsNamed) :
    Harmless statement.text := by
  obtain ⟨valid, joined, ordered, joins, orders, filtered⟩ := built_statement built
  have opening : Harmless (question.opening joined) := by
    rw [Question.opening, columns]
    exact ((show Harmless ("SELECT " ++ Columns.all.written ++ " FROM ") by decide).append
      (.identifier valid)).append joins.harmless
  rcases filtered with ⟨condition, clause, given, accepted, -, rfl⟩ | ⟨-, rfl⟩
  · have filter : Harmless clause.text :=
      harmless_of_compile valid accepted fun term mem => named term (by rwa [terms, given])
    exact (opening.append ((show Harmless " WHERE " by decide).append filter)).append orders.harmless
  · exact opening.append orders.harmless

end Question

namespace Call

variable {table : String} {values : Entries Value} {condition : Condition} {statement : Statement}

/-- A removal by a condition that compares identifiers is harmless. -/
theorem harmless_deleteStatement (built : deleteStatement table (some condition) = .ok statement)
    (named : ∀ term ∈ condition.terms, term.IsNamed) : Harmless statement.text := by
  obtain ⟨given, clause, same, valid, accepted, -, rfl⟩ := built_deleteStatement built
  obtain rfl := Option.some.inj same
  have opening : Harmless (deletion table) :=
    (show Harmless "DELETE FROM " by decide).append (.identifier valid)
  exact (opening.append (by decide)).append (harmless_of_compile valid accepted named)

/-- A change by a condition that compares identifiers is harmless apart from the backquotes around the
name of its table. -/
theorem harmless_updateStatement (built : updateStatement table values condition = .ok statement)
    (named : ∀ term ∈ condition.terms, term.IsNamed) :
    ∃ rest, statement.text = "UPDATE `" ++ table ++ "` SET " ++ rest ∧ Harmless table ∧
      Harmless rest := by
  obtain ⟨clause, valid, -, names, accepted, -, rfl⟩ := built_updateStatement built
  have assignments : Harmless (", ".intercalate (values.names.map (· ++ " = ?"))) := by
    refine .intercalate (by decide) fun part mem => ?_
    obtain ⟨name, own, rfl⟩ := List.mem_map.1 mem
    exact (Harmless.identifier (names name own)).append (by decide)
  have word : Harmless " WHERE " := by decide
  have filter := harmless_of_compile valid accepted named
  refine ⟨_, ?_, .identifier valid, (assignments.append word).append filter⟩
  simp only [revision, String.append_assoc]

/-- The text of a change is unbroken if it is harmless apart from the backquotes. -/
theorem unbroken_revision {rest : String} (first : Harmless table) (second : Harmless rest) :
    Unbroken ("UPDATE `" ++ table ++ "` SET " ++ rest) := by
  have opening : ∀ c ∈ "UPDATE `".toList, c ∉ stops := Sql.Token.forall_of_all (by decide)
  have middle : ∀ c ∈ "` SET ".toList, c ∉ stops := Sql.Token.forall_of_all (by decide)
  refine unbroken_of_stops fun c mem stop => ?_
  simp only [String.toList_append, List.mem_append] at mem
  rcases mem with ((mem | mem) | mem) | mem
  · exact opening c mem stop
  · exact first c mem (List.mem_append_right quotes stop)
  · exact middle c mem stop
  · exact second c mem (List.mem_append_right quotes stop)

end Call

open Call

/-- Names smuggle nothing into a statement.  A question, a change or a removal one of whose names is no
identifier is refused as invalid, and nothing is built or run.  If all names are identifiers, it is built
unless other arguments are refused; and if it asks for all columns and its condition compares only
identifiers, by operators of comparison, its text holds no quotation but the backquotes around the table
of a change, ends no statement and begins no comment, so that it is one statement. -/
theorem names_smuggle_nothing :
    (∀ question : Question, (∃ name ∈ question.names, isIdentifier name = false) →
      Invalid question.statement ∧ Refuses (select question) ∧ Refuses (selectOne question)) ∧
    (∀ table values condition, (∃ name ∈ table :: values.names, isIdentifier name = false) →
      Invalid (updateStatement table values condition) ∧ Refuses (update table values condition)) ∧
    (∀ table condition, isIdentifier table = false →
      Invalid (deleteStatement table condition) ∧ Refuses (delete table condition)) ∧
    (∀ question : Question, question.columns = .all → (∀ term ∈ question.terms, term.IsNamed) →
      ((∃ statement, question.statement = .ok statement) ↔
        (∀ name ∈ question.names, isIdentifier name = true) ∧
          (∀ join ∈ question.joins, ∃ entries, join = .on entries) ∧
          ∃ clause, question.filterClause = .ok clause) ∧
      ∀ statement, question.statement = .ok statement →
        Unquoted statement.text ∧ Unbroken statement.text ∧ IsSingle statement.text) ∧
    (∀ table values condition, (∀ term ∈ condition.terms, term.IsNamed) →
      ((∃ statement, updateStatement table values condition = .ok statement) ↔
        (∀ name ∈ table :: values.names, isIdentifier name = true) ∧ values.isEmpty = false ∧
          ∃ clause, condition.clause table = .ok clause ∧ clause.isEmpty = false) ∧
      ∀ statement, updateStatement table values condition = .ok statement →
        (∃ rest, statement.text = "UPDATE `" ++ table ++ "` SET " ++ rest ∧ Unquoted table ∧
          Unquoted rest) ∧ Unbroken statement.text ∧ IsSingle statement.text) ∧
    ∀ table condition, (∀ term ∈ condition.terms, term.IsNamed) →
      ((∃ statement, deleteStatement table (some condition) = .ok statement) ↔
        isIdentifier table = true ∧
          ∃ clause, condition.clause table = .ok clause ∧ clause.isEmpty = false) ∧
      ∀ statement, deleteStatement table (some condition) = .ok statement →
        Unquoted statement.text ∧ Unbroken statement.text ∧ IsSingle statement.text := by
  have invalid {names : List String} (one : ∃ name ∈ names, isIdentifier name = false) :
      ¬ ∀ name ∈ names, isIdentifier name = true := by
    obtain ⟨name, mem, other⟩ := one
    intro all
    rw [all name mem] at other
    cases other
  refine ⟨?questions, ?changes, ?removals, ?asked, ?changed, ?removed⟩
  case questions =>
    intro question one
    have refused : Invalid question.statement := (Rejects.statement question).invalid fun statement built =>
      invalid one (Question.built_iff.1 ⟨statement, built⟩).1
    exact ⟨refused, refused.refuses query, (refused.refuses query).bind _⟩
  case changes =>
    intro table values condition one
    have refused : Invalid (updateStatement table values condition) :=
      (Rejects.updateStatement table values condition).invalid fun statement built =>
        invalid one (built_updateStatement_iff.1 ⟨statement, built⟩).1
    exact ⟨refused, refused.refuses change⟩
  case removals =>
    intro table condition other
    have refused : Invalid (deleteStatement table condition) :=
      (Rejects.deleteStatement table condition).invalid fun statement built => by
        obtain ⟨given, clause, -, valid, -⟩ := built_deleteStatement built
        rw [other] at valid
        cases valid
    exact ⟨refused, refused.refuses change⟩
  case asked =>
    intro question columns named
    refine ⟨?_, fun statement built => ?_⟩
    · rw [Question.built_iff, columns]
      exact and_congr_right fun _ => and_iff_right ⟨"*", rfl⟩
    · have harmless := Question.harmless_statement built columns named
      obtain ⟨rest, begins⟩ := Question.begins_statement built
      exact ⟨harmless.unquoted, harmless.unbroken, harmless.unbroken.single (by decide) begins⟩
  case changed =>
    intro table values condition named
    refine ⟨built_updateStatement_iff, fun statement built => ?_⟩
    obtain ⟨rest, text, first, second⟩ := harmless_updateStatement built named
    obtain ⟨behind, begins⟩ := begins_updateStatement built
    have unbroken : Unbroken statement.text := text ▸ unbroken_revision first second
    exact ⟨⟨rest, text, first.unquoted, second.unquoted⟩, unbroken,
      unbroken.single (by decide) begins⟩
  case removed =>
    intro table condition named
    refine ⟨built_deleteStatement_iff, fun statement built => ?_⟩
    have harmless := harmless_deleteStatement built named
    obtain ⟨rest, begins⟩ := begins_deleteStatement built
    exact ⟨harmless.unquoted, harmless.unbroken, harmless.unbroken.single (by decide) begins⟩

/-- A question for ships with their crews, the column to join by followed by a second statement. -/
def smuggled : Question :=
  ⟨"ships", .all, [.on (Entries.ofList [("crew", "ships_id; DROP TABLE crew")])], none, []⟩

/-- Ships by a list of crews. -/
def listedShips : Condition :=
  .list [.scalar (.text "crew"), .scalar (.text "NOT  in"), .scalar (.text "9, 10")]

/-- A second statement in a name is refused, and a change by a list of crews is one statement. -/
theorem names_smuggle_nothing_ships :
    Refuses (select smuggled) ∧
      Unquoted "SELECT * FROM ships WHERE crew NOT  in (?, ?) ORDER BY ships_id" ∧
      Unbroken "UPDATE `ships` SET crew = ? WHERE crew NOT  in (?, ?)" ∧
      IsSingle "DELETE FROM ships WHERE crew NOT  in (?, ?)" := by
  have named : ∀ term ∈ listedShips.terms, term.IsNamed := by decide
  obtain ⟨questions, -, -, asked, changed, removed⟩ := names_smuggle_nothing
  obtain ⟨-, single⟩ := asked ⟨"ships", .all, [], some listedShips, ["ships_id"]⟩ rfl named
  obtain ⟨-, changes⟩ := changed "ships" (Entries.ofList [("crew", .integer 8)]) listedShips named
  obtain ⟨-, removes⟩ := removed "ships" listedShips named
  have invalid : ∃ name ∈ smuggled.names, isIdentifier name = false := by decide
  exact ⟨(questions smuggled invalid).2.1, (single _ rfl).1, (changes _ rfl).2.1, (removes _ rfl).2.2⟩

end Registrar
