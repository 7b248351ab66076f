import Mathlib.Data.List.TakeWhile
import Registrar.Join
import Registrar.Proofs.Rows

/-!
# The running numbers of joins

A call joins the tables in front of the first whose name or column is no identifier, each under the next
running number, and leaves out the rest; a call without columns joins nothing.  Joining goes on after a
call that failed.  So however many calls there were, and whichever of them failed, the joined tables are
numbered from zero on without a gap, and as many numbers are taken as tables are joined.
-/

namespace Registrar

open Registrar.Number

/-- Whether a table may be joined by a column. -/
def isJoinable (pair : String × String) : Bool :=
  isIdentifier pair.1 && isIdentifier pair.2

/-- A table may be joined by a column if both are called by identifiers. -/
theorem isJoinable_iff {pair : String × String} :
    isJoinable pair = true ↔ isIdentifier pair.1 = true ∧ isIdentifier pair.2 = true :=
  Bool.and_eq_true_iff

/-- The refusal of tables with their columns: it reports the first name that is no identifier. -/
def refusalOf (pairs : List (String × String)) : Option Failure :=
  ((pairs.flatMap fun pair => [pair.1, pair.2]).find? fun name => !isIdentifier name).map fun name =>
    .rejected (.identifier name)

namespace Join

/-- The tables of a join, each with the column to join it by. -/
def pairs : Join → List (String × String)
  | .on entries => entries.pairs
  | .tables _ => []

/-- The tables of a join in front of the first that may not be joined. -/
def accepted (join : Join) : List (String × String) :=
  join.pairs.takeWhile isJoinable

/-- The refusal of a join. -/
def refusal : Join → Option Failure
  | .on entries => refusalOf entries.pairs
  | .tables names => some (.rejected (.joinWithoutKey names))

end Join

/-- Joined tables under the running numbers from `first` on. -/
def JoinClause.numbered (first : Nat) (pairs : List (String × String)) : List JoinClause :=
  pairs.mapIdx fun i pair => ⟨pair.1, first + i, pair.2⟩

/-- The `k`-th of some joined tables has the `k`-th number after the first. -/
theorem JoinClause.getElem?_numbered (first : Nat) (pairs : List (String × String)) (k : Nat) :
    (numbered first pairs)[k]? = pairs[k]?.map fun pair => ⟨pair.1, first + k, pair.2⟩ :=
  List.getElem?_mapIdx

/-- Joined tables have the numbers from `first` on. -/
theorem JoinClause.map_number_numbered (first : Nat) (pairs : List (String × String)) :
    (numbered first pairs).map number = List.range' first pairs.length := by
  refine List.ext_getElem ?_ fun k _ _ => ?_
  · rw [List.length_map, numbered, List.length_mapIdx, List.length_range']
  · simp only [numbered, List.getElem_map, List.getElem_mapIdx, List.getElem_range', Nat.one_mul]

/-- Joined tables are those that were given, with their columns. -/
theorem JoinClause.mem_of_mem_numbered {first : Nat} {pairs : List (String × String)}
    {clause : JoinClause} (mem : clause ∈ numbered first pairs) : (clause.table, clause.column) ∈ pairs := by
  obtain ⟨i, inside, rfl⟩ := List.mem_mapIdx.1 mem
  exact List.getElem_mem inside

section Refusing

variable {table column : String} {pairs : List (String × String)}

/-- Tables that may all be joined are not refused. -/
theorem refusalOf_eq_none_iff : refusalOf pairs = none ↔ ∀ pair ∈ pairs, isJoinable pair = true := by
  simp only [refusalOf, Option.map_eq_none_iff, List.find?_eq_none, List.forall_mem_flatMap,
    List.forall_mem_cons, List.not_mem_nil, false_implies, implies_true, and_true, isJoinable_iff,
    Bool.not_eq_true', Bool.not_eq_false]

/-- Names are checked in the order in which they are given. -/
theorem refusalOf_cons : refusalOf ((table, column) :: pairs) =
    match identifiers [table, column] with
    | .ok _ => refusalOf pairs
    | .error f => some f := by
  simp only [refusalOf, List.flatMap_cons, List.cons_append, List.nil_append, List.find?_cons,
    identifiers, identifier, bind, Except.bind]
  cases isIdentifier table <;> cases isIdentifier column <;> rfl

/-- A join is not refused if it gives columns and may join all of its tables. -/
theorem Join.refusal_eq_none_iff {join : Join} : join.refusal = none ↔
    ∃ entries, join = .on entries ∧ ∀ pair ∈ entries.pairs, isJoinable pair = true := by
  constructor
  · intro unrefused
    cases join with
    | on entries => exact ⟨entries, rfl, refusalOf_eq_none_iff.1 unrefused⟩
    | tables names => cases unrefused
  · rintro ⟨entries, rfl, joinable⟩
    exact refusalOf_eq_none_iff.2 joinable

/-- A join that is not refused may join all of its tables. -/
theorem Join.accepted_of_unrefused {join : Join} (unrefused : join.refusal = none) :
    join.accepted = join.pairs := by
  obtain ⟨entries, rfl, joinable⟩ := Join.refusal_eq_none_iff.1 unrefused
  exact List.takeWhile_eq_self_iff.2 joinable

end Refusing

namespace Joins

variable {joins after : Joins}

/-- Joins with further tables behind them, under the next numbers. -/
def extend (joins : Joins) (pairs : List (String × String)) : Joins :=
  { joins with
    next := joins.next + pairs.length
    clauses := joins.clauses ++ JoinClause.numbered joins.next pairs }

/-- The joins after some calls, whether they fail or not. -/
def addEach (joins : Joins) (calls : List Join) : Joins :=
  calls.foldl (fun joins join => (joins.add join).1) joins

/-- No further tables leave the joins as they are. -/
theorem extend_nil (joins : Joins) : joins.extend [] = joins := by
  rw [extend, JoinClause.numbered, List.mapIdx_nil, List.append_nil]
  rfl

/-- Tables take the numbers behind those of the tables before them. -/
theorem extend_append (joins : Joins) (pairs others : List (String × String)) :
    joins.extend (pairs ++ others) = (joins.extend pairs).extend others := by
  simp only [extend, JoinClause.numbered, List.length_append, List.mapIdx_append, List.append_assoc,
    Nat.add_assoc, Nat.add_comm pairs.length]

/-- The first of some tables is joined before the others. -/
theorem extend_cons (joins : Joins) (table column : String) (pairs : List (String × String)) :
    joins.extend ((table, column) :: pairs) = (joins.push table column).extend pairs :=
  extend_append joins [(table, column)] pairs

/-- Tables are joined in front of the first that may not be joined, and the refusal reports its name or
its column. -/
theorem pushAll_eq (joins : Joins) (pairs : List (String × String)) :
    joins.pushAll pairs = (joins.extend (pairs.takeWhile isJoinable), refusalOf pairs) := by
  induction pairs generalizing joins with
  | nil => exact congrArg (Prod.mk · none) (extend_nil joins).symm
  | cons pair pairs ih =>
    obtain ⟨table, column⟩ := pair
    rw [pushAll, refusalOf_cons, List.takeWhile_cons]
    cases checked : identifiers [table, column] with
    | ok names =>
      have valid : isJoinable (table, column) = true := by
        rw [isJoinable_iff]
        simpa using (identifiers_eq_ok_iff.1 checked).2
      rw [if_pos valid, extend_cons]
      exact ih (joins.push table column)
    | error f =>
      have refused : ¬isJoinable (table, column) = true := by
        rw [isJoinable_iff]
        intro valid
        have accepted : identifiers [table, column] = .ok [table, column] :=
          identifiers_eq_ok_iff.2 ⟨rfl, by simpa using valid⟩
        rw [accepted] at checked
        cases checked
      rw [if_neg refused, extend_nil]

/-- A call joins the tables that it may join, and fails as it is refused. -/
theorem add_eq (joins : Joins) (join : Join) :
    joins.add join = (joins.extend join.accepted, join.refusal) := by
  cases join with
  | on entries => exact pushAll_eq joins entries.pairs
  | tables names => exact congrArg (Prod.mk · _) (extend_nil joins).symm

/-- After some calls the tables are joined that each of them may join. -/
theorem addEach_eq (joins : Joins) (calls : List Join) :
    joins.addEach calls = joins.extend (calls.flatMap Join.accepted) := by
  induction calls generalizing joins with
  | nil => exact (extend_nil joins).symm
  | cons join calls ih =>
    rw [addEach, List.foldl_cons, add_eq, List.flatMap_cons, extend_append]
    exact ih (joins.extend join.accepted)

/-- Calls that all succeed join all of their tables, and others fail with the first refusal. -/
theorem addAll_eq (joins : Joins) (added : List Join) :
    joins.addAll added =
      match added.findSome? Join.refusal with
      | none => .ok (joins.extend (added.flatMap Join.pairs))
      | some f => .error f := by
  induction added generalizing joins with
  | nil => exact congrArg Except.ok (extend_nil joins).symm
  | cons join added ih =>
    rw [addAll, add_eq, List.findSome?_cons]
    cases refused : join.refusal with
    | none =>
      rw [List.flatMap_cons, extend_append, ← Join.accepted_of_unrefused refused]
      exact ih (joins.extend join.accepted)
    | some f => rfl

/-- Joins that succeed are those that are not refused, and they join all of their tables. -/
theorem addAll_eq_ok_iff {added : List Join} : joins.addAll added = .ok after ↔
    (∀ join ∈ added, join.refusal = none) ∧ joins.extend (added.flatMap Join.pairs) = after := by
  rw [addAll_eq, ← List.findSome?_eq_none_iff]
  cases added.findSome? Join.refusal with
  | none => rw [Except.ok.injEq, and_iff_right rfl]
  | some f => exact iff_of_false nofun nofun

/-- Tables that are joined may be joined. -/
theorem isJoinable_of_addAll {added : List Join} (accepted : joins.addAll added = .ok after) :
    ∀ pair ∈ added.flatMap Join.pairs, isJoinable pair = true := by
  intro pair mem
  obtain ⟨join, among, own⟩ := List.mem_flatMap.1 mem
  rw [← Join.accepted_of_unrefused ((addAll_eq_ok_iff.1 accepted).1 join among)] at own
  exact List.mem_takeWhile_imp own

/-- What was joined by several calls is joined by one over all of their tables, if these are different
tables. -/
theorem add_concatenated {added : List Join} (accepted : joins.addAll added = .ok after)
    (distinct : ((added.flatMap Join.pairs).map Prod.fst).Nodup) :
    joins.add (.on (Entries.ofList (added.flatMap Join.pairs))) = (after, none) := by
  have joinable := isJoinable_of_addAll accepted
  obtain ⟨-, rfl⟩ := addAll_eq_ok_iff.1 accepted
  have pairs : (Entries.ofList (added.flatMap Join.pairs)).pairs = added.flatMap Join.pairs :=
    Entries.pairs_ofList distinct
  rw [add, pairs, pushAll_eq, refusalOf_eq_none_iff.2 joinable, List.takeWhile_eq_self_iff.2 joinable]

end Joins

/-- However many tables were joined by however many calls, whether these failed or not, as many numbers
are taken as there are joined tables, and they are numbered from zero on: the table with the number `k`
is joined under its name with `k` behind, on one column of this table and of the first.  A further call
joins the tables in front of the first that may not be joined, under the next numbers, and nothing else,
and it fails if there is such a table, or if it gives no columns.  If further calls succeed and join
different tables, one call over all of their tables leaves the same joins, and so the same text. -/
theorem joins_are_numbered (source : String) (calls : List Join) :
    let joins := (Joins.start source).addEach calls
    joins.size = joins.clauses.length ∧
    joins.clauses.map JoinClause.number = List.range joins.size ∧
    (∀ (k : Nat) (clause : JoinClause), joins.clauses[k]? = some clause →
      clause.text joins.source =
        "LEFT JOIN " ++ clause.table ++ " AS " ++ (clause.table ++ intText k) ++ " ON " ++
          (clause.table ++ intText k) ++ "." ++ clause.column ++ " = " ++ source ++ "." ++
            clause.column) ∧
    (∀ join, (joins.add join).1.clauses =
        joins.clauses ++ JoinClause.numbered joins.size (join.pairs.takeWhile isJoinable) ∧
      ((joins.add join).2 = none ↔
        ∃ entries, join = .on entries ∧ ∀ pair ∈ entries.pairs, isJoinable pair = true)) ∧
    ∀ added after, joins.addAll added = .ok after →
      ((added.flatMap Join.pairs).map Prod.fst).Nodup →
      joins.add (.on (Entries.ofList (added.flatMap Join.pairs))) = (after, none) := by
  intro joins
  have reached : joins = (Joins.start source).extend (calls.flatMap Join.accepted) :=
    Joins.addEach_eq _ calls
  have clauses : joins.clauses = JoinClause.numbered 0 (calls.flatMap Join.accepted) := by
    rw [reached]
    rfl
  have size : joins.size = (calls.flatMap Join.accepted).length := by
    rw [reached]
    exact Nat.zero_add _
  refine ⟨?_, ?_, fun k clause found => ?_, fun join => ⟨?_, ?_⟩, fun added after accepted distinct =>
    Joins.add_concatenated accepted distinct⟩
  · rw [size, clauses, JoinClause.numbered, List.length_mapIdx]
  · rw [size, clauses, JoinClause.map_number_numbered, List.range_eq_range']
  · rw [clauses, JoinClause.getElem?_numbered, Nat.zero_add] at found
    obtain ⟨pair, -, rfl⟩ := Option.map_eq_some_iff.1 found
    rw [reached]
    rfl
  · rw [Joins.add_eq]
    rfl
  · rw [Joins.add_eq]
    exact Join.refusal_eq_none_iff

/-- A name that is no identifier ends a call and bare tables join nothing, and the next call goes on with
the next number; the calls for loans and shelves may as well be one. -/
theorem joins_are_numbered_authors :
    let calls := [Join.on (Entries.ofList
        [("authors", "author_id"), ("editors; --", "editor_id"), ("loans", "book_id")]),
      .tables ["shelves"], .on (Entries.ofList [("authors", "editor_id")])]
    let added := [Join.on (Entries.ofList [("loans", "book_id")]),
      .on (Entries.ofList [("shelves", "shelf_id")])]
    let joins := (Joins.start "books").addEach calls
    let after := joins.extend [("loans", "book_id"), ("shelves", "shelf_id")]
    joins.clauses.map JoinClause.number = [0, 1] ∧
    joins.clauses[1]? = some ⟨"authors", 1, "editor_id"⟩ ∧
    JoinClause.text joins.source ⟨"authors", 1, "editor_id"⟩ =
      "LEFT JOIN authors AS authors1 ON authors1.editor_id = books.editor_id" ∧
    joins.addAll added = .ok after ∧
    ((added.flatMap Join.pairs).map Prod.fst).Nodup ∧
    joins.add (.on (Entries.ofList (added.flatMap Join.pairs))) = (after, none) := by
  intro calls added joins after
  obtain ⟨-, numbers, texts, -, merged⟩ := joins_are_numbered "books" calls
  have second : joins.clauses[1]? = some ⟨"authors", 1, "editor_id"⟩ := by decide
  have accepted : joins.addAll added = .ok after := by rfl
  have distinct : ((added.flatMap Join.pairs).map Prod.fst).Nodup := by decide
  refine ⟨numbers.trans (by decide), second, (texts 1 _ second).trans (by decide), accepted, distinct,
    merged added after accepted distinct⟩

end Registrar
