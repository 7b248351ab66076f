import Registrar.Proofs.Filter.Guard
import Registrar.Proofs.Filter.Sealing
import Registrar.Proofs.Joining

/-!
# Statements and their marks

The statements that questions, changes, removals and insertions are built into.  What the library
writes itself around the texts of a caller is silent, so the marks of a statement are those of its
new values and of its condition, in this order, and a statement is sealed if the texts of its caller
are.
-/

namespace Registrar

open Registrar.Sql (Sealed Silent)

/-- A statement's parameters are the values of the marks in its text, from left to right. -/
structure LinedUp (statement : Statement) (marks : List Mark) : Prop where
  aligned : Aligned statement.text statement.parameters marks
  /-- There are as many parameters as marks in the text. -/
  count : statement.text.toList.count '?' = statement.parameters.length

/-- The parameters of a text that is aligned are lined up. -/
theorem Aligned.linedUp {text : String} {parameters : List Value} {marks : List Mark}
    (aligned : Aligned text parameters marks) : LinedUp ⟨text, parameters⟩ marks :=
  ⟨aligned, aligned.count⟩

/-- A silent addition to a statement, behind a blank, or nothing. -/
def Trails (text : String) : Prop :=
  text = "" ∨ ∃ part, text = " " ++ part ∧ Silent part

namespace Trails

variable {text trail : String}

/-- An addition has no marks. -/
theorem unmarked (trails : Trails trail) : '?' ∉ trail.toList := by
  rcases trails with rfl | ⟨part, rfl, silent⟩
  · exact nofun
  · have blank : Silent " " := by decide
    exact (blank.append silent).unmarked

/-- An addition does not change the marks of what is sealed. -/
theorem isSealed {n : Nat} (trails : Trails trail) (front : Sealed n text.toList) :
    Sealed n (text ++ trail).toList := by
  rcases trails with rfl | ⟨part, rfl, silent⟩
  · rwa [String.append_empty]
  · have whole := front.spacedText silent.isSealed
    rwa [String.append_assoc] at whole

end Trails

/-- A joined table is silent if its names are identifiers. -/
theorem silent_join {source : String} (start : isIdentifier source = true) {clause : JoinClause}
    (table : isIdentifier clause.table = true) (column : isIdentifier clause.column = true) :
    Silent (clause.text source) := by
  have shown : Silent clause.alias := (Silent.identifier table).append (.number clause.number)
  have glue : ∀ text ∈ ["LEFT JOIN ", " AS ", " ON ", ".", " = "], Silent text := by decide
  have name := Silent.identifier table
  have key := Silent.identifier column
  have begins := Silent.identifier start
  exact (((((((((((glue _ (by simp)).append name).append (glue _ (by simp))).append shown).append
    (glue _ (by simp))).append shown).append (glue _ (by simp))).append key).append
    (glue _ (by simp))).append begins).append (glue _ (by simp))).append key

namespace Joins

/-- All names in the joins are identifiers. -/
structure Named (joins : Joins) : Prop where
  source : isIdentifier joins.source = true
  clauses : ∀ clause ∈ joins.clauses,
    isIdentifier clause.table = true ∧ isIdentifier clause.column = true

namespace Named

variable {joins after : Joins}

/-- Joins that are accepted have identifiers for names. -/
theorem addAll (named : joins.Named) {added : List Join}
    (accepted : joins.addAll added = .ok after) : after.Named := by
  have joinable := isJoinable_of_addAll accepted
  obtain ⟨-, rfl⟩ := addAll_eq_ok_iff.1 accepted
  refine ⟨named.source, fun clause mem => ?_⟩
  rcases List.mem_append.1 mem with mem | mem
  · exact named.clauses clause mem
  · exact isJoinable_iff.1 (joinable _ (JoinClause.mem_of_mem_numbered mem))

/-- The joins are silent. -/
theorem silent (named : joins.Named) : Silent joins.text := by
  refine Silent.intercalate (by decide) ?_
  intro part mem
  obtain ⟨clause, among, rfl⟩ := List.mem_map.1 mem
  obtain ⟨table, column⟩ := named.clauses clause among
  exact silent_join named.source table column

end Named

end Joins

/-- The columns that are asked for stand in the text as they are written. -/
theorem Columns.eq_written_of_text {columns : Columns} {text : String}
    (accepted : columns.text = .ok text) : text = columns.written := by
  rw [Columns.text] at accepted
  split at accepted
  · cases accepted
  · exact (Except.ok.inj accepted).symm

namespace Question

/-- The marks of a question are those of its filter. -/
def marks (question : Question) : List Mark :=
  question.filter.elim [] (Condition.marks question.table)

/-- The texts of a question that are taken as they are. -/
def owned (question : Question) : List String :=
  question.columns.written :: question.filter.elim [] Condition.owned

/-- The values that the filter of a question is built of. -/
def scalars (question : Question) : List Value :=
  question.filter.elim [] Condition.scalars

/-- The text of a question up to its filter. -/
def opening (question : Question) (joined : String) : String :=
  "SELECT " ++ question.columns.written ++ " FROM " ++ question.table ++ joined

/-- A question that is built asks for its columns, with silent additions, and ends with its filter
unless that says nothing. -/
theorem built_statement {question : Question} {statement : Statement}
    (built : question.statement = .ok statement) :
    isIdentifier question.table = true ∧ ∃ joined ordered, Trails joined ∧ Trails ordered ∧
      ((∃ condition clause, question.filter = some condition ∧
          condition.clause question.table = .ok clause ∧ clause.isEmpty = false ∧
          statement = ⟨question.opening joined ++ (" WHERE " ++ clause.text) ++ ordered,
            clause.parameters⟩) ∨
        ((∀ condition, question.filter = some condition →
            ∃ clause, condition.clause question.table = .ok clause ∧ clause.isEmpty = true) ∧
          statement = ⟨question.opening joined ++ ordered, []⟩)) := by
  obtain ⟨table, named, built⟩ := bind_eq_ok built
  obtain ⟨rfl, valid⟩ := identifier_eq_ok_iff.1 named
  obtain ⟨columns, written, built⟩ := bind_eq_ok built
  obtain rfl := Columns.eq_written_of_text written
  obtain ⟨joins, added, built⟩ := bind_eq_ok built
  have names : joins.Named := Joins.Named.addAll ⟨valid, by simp [Joins.start]⟩ added
  obtain ⟨clause, filtered, built⟩ := bind_eq_ok built
  obtain ⟨orderBy, known, built⟩ := bind_eq_ok built
  obtain ⟨rfl, all⟩ := identifiers_eq_ok_iff.1 known
  refine ⟨valid, if joins.isEmpty then "" else " " ++ joins.text,
    if question.orderBy.isEmpty then "" else " ORDER BY " ++ ", ".intercalate question.orderBy,
    ?_, ?_, ?_⟩
  · split
    · exact .inl rfl
    · exact .inr ⟨joins.text, rfl, names.silent⟩
  · split
    · exact .inl rfl
    · have columns : Silent (", ".intercalate question.orderBy) :=
        Silent.intercalate (by decide) fun name mem => .identifier (all name mem)
      have word : Silent "ORDER BY " := by decide
      exact .inr ⟨"ORDER BY " ++ ", ".intercalate question.orderBy,
        by rw [← String.append_assoc]; rfl, word.append columns⟩
  · rw [filterClause] at filtered
    split at filtered
    · next none =>
      obtain rfl := Except.ok.inj filtered
      refine .inr ⟨by simp [none], ?_⟩
      rw [← Except.ok.inj built, opening, String.append_empty]
    · next condition given =>
      obtain ⟨clause', accepted, filtered⟩ := bind_eq_ok filtered
      by_cases nothing : clause'.isEmpty = true
      · rw [if_pos nothing] at filtered
        obtain rfl := Except.ok.inj filtered
        refine .inr ⟨fun other same => ?_, ?_⟩
        · rw [given] at same
          obtain rfl := Option.some.inj same
          exact ⟨clause', accepted, nothing⟩
        · rw [← Except.ok.inj built, opening, String.append_empty]
      · rw [if_neg nothing] at filtered
        obtain rfl := Except.ok.inj filtered
        exact .inl ⟨condition, clause', given, accepted, Bool.not_eq_true _ ▸ nothing,
          (Except.ok.inj built).symm⟩

/-- The statement of a question begins with the word for questions. -/
theorem begins_statement {question : Question} {statement : Statement}
    (built : question.statement = .ok statement) :
    ∃ rest, statement.text.toList = "SELECT".toList ++ ' ' :: rest := by
  obtain ⟨-, joined, ordered, -, -, filtered⟩ := built_statement built
  rcases filtered with ⟨condition, clause, -, -, -, rfl⟩ | ⟨-, rfl⟩
  · exact ⟨_, by simp only [opening, String.toList_append, List.append_assoc]; rfl⟩
  · exact ⟨_, by simp only [opening, String.toList_append, List.append_assoc]; rfl⟩

/-- The parameters of a question are lined up with the marks of its filter. -/
theorem linedUp_statement {question : Question} {statement : Statement}
    (built : question.statement = .ok statement) (unmarked : Unmarked question.owned) :
    LinedUp statement question.marks := by
  obtain ⟨valid, joined, ordered, joins, orders, filtered⟩ := built_statement built
  have table := (Silent.identifier valid).unmarked
  have columns := unmarked _ List.mem_cons_self
  have front : '?' ∉ (question.opening joined).toList := by
    simp [opening, columns, table, joins.unmarked]
  have inside : ∀ condition clause, question.filter = some condition →
      condition.clause question.table = .ok clause →
      Aligned clause.text clause.parameters question.marks := by
    intro condition clause given accepted
    have owned : Unmarked condition.owned := fun text mem => unmarked text (by simp [owned, given, mem])
    rw [marks, given]
    exact aligned_of_compile table accepted owned
  rcases filtered with ⟨condition, clause, given, accepted, -, rfl⟩ | ⟨nothing, rfl⟩
  · have word : '?' ∉ " WHERE ".toList := by decide
    exact (((inside condition clause given accepted).behind word).behind front).before
      orders.unmarked |>.linedUp
  · have none : question.marks = [] := by
      cases given : question.filter with
      | none => rw [marks, given, Option.elim_none]
      | some condition =>
        obtain ⟨clause, accepted, blank⟩ := nothing condition given
        exact ((inside condition clause given accepted).of_blank blank).1
    have silent : Aligned (question.opening joined ++ ordered) [] [] := by
      refine ⟨?_, rfl⟩
      show '?' ∉ (question.opening joined ++ ordered).toList
      rw [String.toList_append, List.mem_append]
      exact fun mem => mem.elim front orders.unmarked
    rw [none]
    exact silent.linedUp

/-- The statement of a question is sealed if its caller's texts are. -/
theorem sealed_statement {question : Question} {statement : Statement}
    (built : question.statement = .ok statement) (owned : AllSealed question.owned) :
    Sealed statement.parameters.length statement.text.toList := by
  obtain ⟨valid, joined, ordered, joins, orders, filtered⟩ := built_statement built
  have columns := Sql.sealed_of_isSealed (owned _ List.mem_cons_self)
  have word : ∀ word ∈ ["SELECT", "FROM", "WHERE"], Sealed 0 word.toList := by
    intro word mem
    have silent : ∀ word ∈ ["SELECT", "FROM", "WHERE"], Silent word := by decide
    exact (silent word mem).isSealed
  have front : Sealed 0 (question.opening joined).toList := by
    have text := (((word "SELECT" (by simp)).spacedText columns).spacedText
      (word "FROM" (by simp))).spacedText (Silent.identifier valid).isSealed
    have written : question.opening joined =
        "SELECT" ++ " " ++ question.columns.written ++ " " ++ "FROM" ++ " " ++ question.table ++
          joined := by
      apply String.toList_inj.1
      simp [opening]
    rw [written]
    exact joins.isSealed text
  rcases filtered with ⟨condition, clause, given, accepted, speaks, rfl⟩ | ⟨-, rfl⟩
  · have texts : AllSealed condition.owned := fun text mem => owned text (by simp [Question.owned, given, mem])
    have filter := sealed_of_compile valid accepted texts speaks
    have text := (front.spacedText (word "WHERE" (by simp))).spacedText filter
    have whole := orders.isSealed text
    rw [Nat.zero_add] at whole
    have written : question.opening joined ++ (" WHERE " ++ clause.text) ++ ordered =
        question.opening joined ++ " " ++ "WHERE" ++ " " ++ clause.text ++ ordered := by
      apply String.toList_inj.1
      simp
    rwa [← written] at whole
  · exact orders.isSealed front

end Question

/-- A name and the value that it is given, as a mark behind the name. -/
def assignmentMark (pair : String × Value) : Mark :=
  ⟨pair.1 ++ " = ", pair.2⟩

/-- The assignments of a change are lined up with its values. -/
theorem aligned_assignments {pairs : List (String × Value)}
    (names : ∀ pair ∈ pairs, isIdentifier pair.1 = true) :
    Aligned (", ".intercalate (pairs.map fun pair => pair.1 ++ " = ?")) (pairs.map Prod.snd)
      (pairs.map assignmentMark) := by
  induction pairs with
  | nil => exact ⟨.nothing, rfl⟩
  | cons pair pairs ih =>
    have lead : '?' ∉ (pair.1 ++ " = ").toList := by
      have glue : Silent " = " := by decide
      exact ((Silent.identifier (names pair List.mem_cons_self)).append glue).unmarked
    have first : Aligned (pair.1 ++ " = ?") [pair.2] [assignmentMark pair] := by
      have written : pair.1 ++ " = ?" = pair.1 ++ " = " ++ "?" := by
        rw [String.append_assoc]
        rfl
      exact written ▸ ⟨.single lead pair.2, rfl⟩
    have others := ih fun other mem => names other (List.mem_cons_of_mem pair mem)
    cases pairs with
    | nil => exact first
    | cons next pairs =>
      have comma : '?' ∉ ", ".toList := by decide
      simp only [List.map_cons, String.intercalate_cons_cons]
      exact (first.before comma).append others

/-- The assignments of a change are sealed. -/
theorem sealed_assignments {pairs : List (String × Value)}
    (names : ∀ pair ∈ pairs, isIdentifier pair.1 = true) :
    Sealed pairs.length (", ".intercalate (pairs.map fun pair => pair.1 ++ " = ?")).toList := by
  induction pairs with
  | nil => exact .nil
  | cons pair pairs ih =>
    have first : Sealed 1 (pair.1 ++ " = ?").toList := by
      have glue : Silent " =" := by decide
      have named := (Silent.identifier (names pair List.mem_cons_self)).append glue
      have whole := named.isSealed.spacedText Sealed.mark
      have written : pair.1 ++ " = ?" = pair.1 ++ " =" ++ " " ++ "?" := by
        simp only [String.append_assoc]
        rfl
      rwa [← written, Nat.zero_add] at whole
    have others := ih fun other mem => names other (List.mem_cons_of_mem pair mem)
    cases pairs with
    | nil => exact first
    | cons next pairs =>
      have whole := first.commaText others
      rw [Nat.add_comm] at whole
      simp only [List.map_cons, String.intercalate_cons_cons]
      exact whole

namespace Call

/-- The assignments of a change as they are written. -/
theorem assignments_eq (values : Entries Value) :
    values.names.map (· ++ " = ?") = values.pairs.map fun pair => pair.1 ++ " = ?" := by
  rw [Entries.names, List.map_map]
  rfl

/-- The parameters of a change are lined up with its new values, and then with the marks of its
condition. -/
theorem linedUp_updateStatement {table : String} {values : Entries Value} {condition : Condition}
    {statement : Statement} (built : updateStatement table values condition = .ok statement)
    (unmarked : Unmarked condition.owned) :
    LinedUp statement (values.pairs.map assignmentMark ++ condition.marks table) := by
  obtain ⟨clause, valid, -, names, accepted, -, rfl⟩ := built_updateStatement built
  have plain := (Silent.identifier valid).unmarked
  have opening : '?' ∉ ("UPDATE `" ++ table ++ "` SET ").toList := by simp [plain]
  have word : '?' ∉ " WHERE ".toList := by decide
  have values' := aligned_assignments fun pair mem => names pair.1 (List.mem_map_of_mem mem)
  have filter := aligned_of_compile plain accepted unmarked
  have whole := (values'.behind opening).append (filter.behind word)
  have written : revision table values ++ " WHERE " ++ clause.text =
      "UPDATE `" ++ table ++ "` SET " ++
        ", ".intercalate (values.pairs.map fun pair => pair.1 ++ " = ?") ++
          (" WHERE " ++ clause.text) := by
    rw [revision, assignments_eq, String.append_assoc]
  rw [written]
  exact whole.linedUp

/-- The parameters of a removal are lined up with the marks of its condition. -/
theorem linedUp_deleteStatement {table : String} {condition : Condition} {statement : Statement}
    (built : deleteStatement table (some condition) = .ok statement)
    (unmarked : Unmarked condition.owned) : LinedUp statement (condition.marks table) := by
  obtain ⟨given, clause, same, valid, accepted, -, rfl⟩ := built_deleteStatement built
  obtain rfl := Option.some.inj same
  have plain := (Silent.identifier valid).unmarked
  have opening : '?' ∉ (deletion table ++ " WHERE ").toList := by simp [deletion, plain]
  exact ((aligned_of_compile plain accepted unmarked).behind opening).linedUp

/-- The statement of a change is sealed if the texts of its condition are. -/
theorem sealed_updateStatement {table : String} {values : Entries Value} {condition : Condition}
    {statement : Statement} (built : updateStatement table values condition = .ok statement)
    (owned : AllSealed condition.owned) :
    Sealed statement.parameters.length statement.text.toList := by
  obtain ⟨clause, valid, -, names, accepted, speaks, rfl⟩ := built_updateStatement built
  have word : ∀ word ∈ ["UPDATE", "SET", "WHERE"], Sealed 0 word.toList := by
    intro word mem
    have silent : ∀ word ∈ ["UPDATE", "SET", "WHERE"], Silent word := by decide
    exact (silent word mem).isSealed
  have backquoted : Sealed 0 ("`" ++ table ++ "`").toList := by
    have quoted := Sql.sealed_backquoted valid
    have written : ("`" ++ table ++ "`").toList = '\x60' :: (table.toList ++ ['\x60']) := by simp
    rwa [← written] at quoted
  have values' := sealed_assignments fun pair mem => names pair.1 (List.mem_map_of_mem mem)
  have filter := sealed_of_compile valid accepted owned speaks
  have whole := (((((word "UPDATE" (by simp)).spacedText backquoted).spacedText
    (word "SET" (by simp))).spacedText values').spacedText (word "WHERE" (by simp))).spacedText
      filter
  have written : revision table values ++ " WHERE " ++ clause.text =
      "UPDATE" ++ " " ++ ("`" ++ table ++ "`") ++ " " ++ "SET" ++ " " ++
        ", ".intercalate (values.pairs.map fun pair => pair.1 ++ " = ?") ++ " " ++ "WHERE" ++ " " ++
          clause.text := by
    rw [revision, assignments_eq]
    apply String.toList_inj.1
    simp
  have count : 0 + 0 + 0 + values.pairs.length + 0 + clause.parameters.length =
      (values.values ++ clause.parameters).length := by
    simp [Entries.values]
  rwa [written, ← count]

/-- The statement of a removal is sealed if the texts of its condition are. -/
theorem sealed_deleteStatement {table : String} {condition : Condition} {statement : Statement}
    (built : deleteStatement table (some condition) = .ok statement)
    (owned : AllSealed condition.owned) :
    Sealed statement.parameters.length statement.text.toList := by
  obtain ⟨given, clause, same, valid, accepted, speaks, rfl⟩ := built_deleteStatement built
  obtain rfl := Option.some.inj same
  have opening : Silent (deletion table ++ " WHERE") := by
    have first : Silent "DELETE FROM " := by decide
    have last : Silent " WHERE" := by decide
    exact (first.append (.identifier valid)).append last
  have whole := opening.isSealed.spacedText (sealed_of_compile valid accepted owned speaks)
  have written : deletion table ++ " WHERE " ++ clause.text =
      deletion table ++ " WHERE" ++ " " ++ clause.text := by
    apply String.toList_inj.1
    simp
  rw [Nat.zero_add] at whole
  rwa [written]

/-- What stands before the first value of an insertion. -/
def insertOpening (table : String) (names : List String) : String :=
  "INSERT INTO `" ++ table ++ "` (" ++ ", ".intercalate names ++ ") VALUES ("

/-- The marks of an insertion stand one after another for the values of its columns. -/
def insertMarks (table : String) : List (String × Value) → List Mark
  | [] => []
  | pair :: pairs => ⟨insertOpening table ((pair :: pairs).map Prod.fst), pair.2⟩ ::
      pairs.map fun pair => ⟨", ", pair.2⟩

section Given

variable {table : String} {values : Entries Value} {columns : List ColumnInfo}

/-- What the columns of a list are given. -/
def givenPairs (values : Entries Value) (columns : List ColumnInfo) : List (String × Value) :=
  columns.filterMap fun column => (values.get? column.name).map fun value => (column.name, value)

/-- A column whose name has a value is given it, in front of the others. -/
theorem givenPairs_cons_of_some {column : ColumnInfo} {value : Value}
    (given : values.get? column.name = some value) (columns : List ColumnInfo) :
    givenPairs values (column :: columns) = (column.name, value) :: givenPairs values columns :=
  List.filterMap_cons_some (by rw [given]; rfl)

/-- A column whose name has no value is passed over. -/
theorem givenPairs_cons_of_none {column : ColumnInfo} (given : values.get? column.name = none)
    (columns : List ColumnInfo) :
    givenPairs values (column :: columns) = givenPairs values columns :=
  List.filterMap_cons_none (by rw [given]; rfl)

/-- The columns that are given something are those whose names have values. -/
theorem names_givenPairs (values : Entries Value) (columns : List ColumnInfo) :
    (givenPairs values columns).map Prod.fst =
      (columns.filter fun column => (values.get? column.name).isSome).map ColumnInfo.name := by
  induction columns with
  | nil => rfl
  | cons column columns ih =>
    cases given : values.get? column.name with
    | some value =>
      rw [givenPairs_cons_of_some given, List.filter_cons_of_pos (by rw [given]; rfl), List.map_cons,
        List.map_cons, ih]
    | none =>
      rw [givenPairs_cons_of_none given, List.filter_cons_of_neg (by rw [given]; nofun), ih]

/-- A column is given a value exactly if it is in the list and its name has the value. -/
theorem mem_givenPairs_iff {pair : String × Value} : pair ∈ givenPairs values columns ↔
    pair.1 ∈ columns.map ColumnInfo.name ∧ values.get? pair.1 = some pair.2 := by
  obtain ⟨name, value⟩ := pair
  rw [givenPairs, List.mem_filterMap]
  constructor
  · rintro ⟨column, mem, given⟩
    obtain ⟨own, stands, same⟩ := Option.map_eq_some_iff.1 given
    obtain ⟨rfl, rfl⟩ := Prod.mk.inj same
    exact ⟨List.mem_map_of_mem mem, stands⟩
  · rintro ⟨among, stands⟩
    obtain ⟨column, mem, rfl⟩ := List.mem_map.1 among
    exact ⟨column, mem, by rw [stands]; rfl⟩

/-- The columns of a list are given their values, unless one of them is required and has none. -/
theorem insertPairs_eq (table : String) (values : Entries Value) (columns : List ColumnInfo) :
    insertPairs table values columns =
      match columns.find? fun column => column.isRequired && (values.get? column.name).isNone with
      | some column => .error (.rejected (.missingColumn column.name table))
      | none => .ok (givenPairs values columns) := by
  induction columns with
  | nil => rfl
  | cons column columns ih =>
    rw [insertPairs, ih]
    cases given : values.get? column.name with
    | some value =>
      rw [List.find?_cons_of_neg (by simp [given]), givenPairs_cons_of_some given]
      cases columns.find? fun column => column.isRequired && (values.get? column.name).isNone <;> rfl
    | none =>
      rw [givenPairs_cons_of_none given]
      by_cases required : column.isRequired = true
      · rw [List.find?_cons_of_pos (by simp [given, required])]
        exact if_pos required
      · rw [List.find?_cons_of_neg (by simp [required])]
        exact if_neg required

/-- What an insertion gives to columns is what they are given. -/
theorem eq_of_insertPairs {pairs : List (String × Value)}
    (built : insertPairs table values columns = .ok pairs) : pairs = givenPairs values columns := by
  rw [insertPairs_eq] at built
  split at built
  · cases built
  · exact (Except.ok.inj built).symm

/-- Columns that an insertion gives are among those of the table, in their order, each with the
value that it is given. -/
theorem of_insertPairs {pairs : List (String × Value)}
    (built : insertPairs table values columns = .ok pairs) :
    (pairs.map Prod.fst).Sublist (columns.map ColumnInfo.name) ∧
      ∀ pair ∈ pairs, values.get? pair.1 = some pair.2 := by
  obtain rfl := eq_of_insertPairs built
  rw [names_givenPairs]
  exact ⟨List.filter_sublist.map _, fun pair mem => (mem_givenPairs_iff.1 mem).2⟩

/-- What a column that an insertion may give is given is inserted. -/
theorem mem_of_insertPairs {pairs : List (String × Value)} {name : String} {value : Value}
    (built : insertPairs table values columns = .ok pairs)
    (among : name ∈ columns.map ColumnInfo.name) (given : values.get? name = some value) :
    (name, value) ∈ pairs := by
  obtain rfl := eq_of_insertPairs built
  exact mem_givenPairs_iff.2 ⟨among, given⟩

end Given

/-- Texts without marks have none with commas between them. -/
theorem unmarked_intercalate {texts : List String} (unmarked : Unmarked texts) :
    '?' ∉ (", ".intercalate texts).toList := by
  intro mem
  have each : ∀ text ∈ texts, ∀ c ∈ text.toList, c ≠ '?' := by
    rintro text own c among rfl
    exact unmarked text own among
  exact Sql.forall_mem_intercalate (Sql.Token.forall_of_all (by decide)) each '?' mem rfl

/-- The parameters of an insertion are lined up with its columns. -/
theorem linedUp_insertStatement {table : String} (plain : '?' ∉ table.toList)
    {pairs : List (String × Value)} (unmarked : Unmarked (pairs.map Prod.fst)) :
    LinedUp (insertStatement table pairs) (insertMarks table pairs) := by
  cases pairs with
  | nil =>
    have none : '?' ∉ ("INSERT INTO `" ++ table ++ "` DEFAULT VALUES").toList := by simp [plain]
    have aligned : Aligned ("INSERT INTO `" ++ table ++ "` DEFAULT VALUES") [] [] := ⟨none, rfl⟩
    exact aligned.linedUp
  | cons pair pairs =>
    have lead : '?' ∉ (insertOpening table ((pair :: pairs).map Prod.fst)).toList := by
      simp only [insertOpening, String.toList_append, List.mem_append, not_or]
      exact ⟨⟨⟨⟨by decide, plain⟩, by decide⟩, unmarked_intercalate unmarked⟩, by decide⟩
    have closing : '?' ∉ ")".toList := by decide
    have marked := (marked_marks lead pair.2 (pairs.map Prod.snd)).before closing
    rw [List.length_map, List.map_map] at marked
    have aligned : Aligned (insertStatement table (pair :: pairs)).text
        (insertStatement table (pair :: pairs)).parameters (insertMarks table (pair :: pairs)) := by
      refine ⟨marked, ?_⟩
      simp [insertStatement, insertMarks]
    exact aligned.linedUp

end Call

end Registrar
