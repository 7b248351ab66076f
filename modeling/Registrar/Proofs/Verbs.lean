import Registrar.Proofs.Filter.Stating
import Registrar.Proofs.Mutation
import Registrar.Proofs.Reach
import Registrar.Proofs.Sql.Choosing
import Registrar.Proofs.Sql.Inserting
import Registrar.Proofs.Sql.Unfollowed
import Registrar.Proofs.Statements

/-!
# Questions, removals and changes agree

A condition on the columns of a table means the same rows wherever it stands: a question answers them,
a removal takes them away, and a change puts new rows in their places.  Nothing else changes, neither
the other rows of the table nor what has another name, if references to the table refuse.
-/

namespace Registrar

open Registrar.Text Registrar.Sql Registrar.Sql.Database Call

/-- A condition compares columns of a table with values, at least once. -/
structure Condition.Compares (condition : Condition) (table : String) (t : Sql.Table) : Prop where
  plain : ∀ term ∈ condition.terms, term.IsPlain
  known : ∀ term ∈ condition.terms, ∀ column ∈ term.column? table,
    (targetColumn t column).isSome = true
  speaks : condition.leafless = false

/-- Whether a condition is true of a row of a table. -/
def Condition.selects (condition : Condition) (table : String) (t : Sql.Table) (row : Sql.Row) : Bool :=
  condition.meaning table t.names ⟨row.slots, [], [], 0, 0⟩ .and == some (some true)

/-- The rows of a table that a condition is true of. -/
def Condition.chosen (condition : Condition) (table : String) (t : Sql.Table) : List Sql.Row :=
  t.rows.filter (condition.selects table t)

/-- The rows of a table that a condition is not true of. -/
def Condition.spared (condition : Condition) (table : String) (t : Sql.Table) : List Sql.Row :=
  t.rows.filter fun row => !condition.selects table t row

/-- A row as a question for all columns of its table answers it. -/
def Sql.Table.record (t : Sql.Table) (row : Sql.Row) : Registrar.Row :=
  .ofCells t.headings row.cells

/-- The cells that some names are given. -/
def Entries.stored (values : Entries Value) : List (String × Cell) :=
  values.pairs.map fun pair => (pair.1, pair.2.stored)

/-- The question for all columns of the rows of a table that meet a condition. -/
def Question.ofRows (table : String) (condition : Condition) : Question :=
  { Question.ofTable table with filter := some condition }

section Meaning

variable {table given : String} {t : Sql.Table} {condition : Condition} {clause : Clause} {names : Names}
  {env : Env} {k : Nat} {e r : Expr}

/-- The columns of a condition are there wherever its table is read alone. -/
theorem Condition.Compares.covers (compares : condition.Compares table t)
    (apart : t.columns.Pairwise fun c d => sameName c.name d.name = false)
    (alone : names.areas = [t.area given 0]) (env : Env) :
    Covers table names env condition.terms := by
  intro term mem column named
  rw [operand?_of_known alone apart (compares.known term mem column named)]
  rfl

/-- A condition means the same wherever its table is read alone. -/
theorem Condition.Compares.meaning_eq (compares : condition.Compares table t)
    (apart : t.columns.Pairwise fun c d => sameName c.name d.name = false)
    (alone : names.areas = [t.area given 0]) (env : Env) :
    condition.meaning table names env .and =
      condition.meaning table t.names ⟨env.cells, [], [], 0, 0⟩ .and := by
  refine Condition.meaning_congr .and condition fun term mem column named => ?_
  have known := compares.known term mem column named
  have own : t.names.areas = [t.area t.name 0] := rfl
  rw [operand?_of_known alone apart known, operand?_of_known own apart known]

/-- What a condition is read as means something wherever its table is read alone, and holds of the
rows that the condition is true of. -/
theorem Condition.Compares.holds (compares : condition.Compares table t)
    (apart : t.columns.Pairwise fun c d => sameName c.name d.name = false)
    (alone : names.areas = [t.area given 0]) (meant : condition.IsMeantBy table clause k e)
    (binds : env.Binds k (clause.parameters.map Value.stored)) :
    ∃ r, names.resolve e = .ok r ∧
      ∀ row : Sql.Row, r.holds (env.ofRow row.slots) = .ok (condition.selects table t row) := by
  obtain ⟨truth, -, known⟩ := meant names env (compares.covers apart alone env) binds
  obtain ⟨r, resolved⟩ := resolve_of_truth? known
  refine ⟨r, resolved, fun row => ?_⟩
  obtain ⟨truth, means, known⟩ := meant names (env.ofRow row.slots) (compares.covers apart alone _) binds
  rw [compares.meaning_eq apart alone] at means
  have meaning : condition.meaning table t.names ⟨row.slots, [], [], 0, 0⟩ .and = some truth := means
  rw [holds_of_truth? resolved known, Condition.selects, meaning]
  rfl

/-- What is compared with a column in a row is what the row has there. -/
theorem columnTruth_of_holds {row : Sql.Row} {i : Nat} {c : Column} {cell : Cell}
    (apart : t.columns.Pairwise fun c d => sameName c.name d.name = false)
    (column : t.columns[i]? = some c) (holds : row.cells[i]? = some cell) (comparator : Comparator)
    (cells : List Cell) :
    columnTruth t.names ⟨row.slots, [], [], 0, 0⟩ c.name comparator cells =
      comparator.truth ⟨cell, c.affinity, c.collation⟩ cells := by
  have known : (targetColumn t c.name).isSome = true := by
    rw [targetColumn_of_column apart column]
    rfl
  have alone : t.names.areas = [t.area t.name 0] := rfl
  have here : row.slots[i]? = some cell := by
    rw [Row.slots, List.getElem?_append_left (List.getElem?_eq_some_iff.1 holds).1, holds]
  have operand : t.operand row.slots c.name = ⟨cell, c.affinity, c.collation⟩ := by
    rw [Table.operand, columnIndex?_of_column apart column, Option.bind_some, column, Option.map_some]
    show Operand.mk ((row.slots[i]?).getD .null) c.affinity c.collation = _
    rw [here, Option.getD_some]
  rw [columnTruth_of_operand (operand?_of_known alone apart known _), operand]

/-- A condition of one term compares columns if the term does. -/
theorem Condition.Compares.of_term {term : Term} (terms : condition.terms = [term])
    (speaks : condition.leafless = false) (plain : term.IsPlain)
    (known : ∀ column ∈ term.column? table, (targetColumn t column).isSome = true) :
    condition.Compares table t := by
  refine ⟨?_, ?_, speaks⟩
  · rwa [terms, List.forall_mem_singleton]
  · rwa [terms, List.forall_mem_singleton]

/-- The clause of a condition that compares says something. -/
theorem Condition.Compares.isEmpty (compares : condition.Compares table t)
    (accepted : condition.clause table = .ok clause) : clause.isEmpty = false := by
  rw [Bool.eq_false_iff]
  intro nothing
  have none := (keeps_of_compile accepted).isEmpty.1 nothing
  have leafless := (leafless_iff_terms accepted).2 none
  rw [compares.speaks] at leafless
  cases leafless

end Meaning

namespace Call

section Asking

variable {session : Session} {table : String} {t : Sql.Table} {condition : Condition} {clause : Clause}

/-- The statement of a question for the rows that meet a condition. -/
theorem statement_ofRows (named : isIdentifier table = true)
    (accepted : condition.clause table = .ok clause) (speaks : clause.isEmpty = false) :
    (Question.ofRows table condition).statement =
      .ok ⟨questionText table clause, clause.parameters⟩ := by
  have isName : identifier table = .ok table := identifier_eq_ok_iff.2 ⟨rfl, named⟩
  have columns : Columns.all.text = .ok "*" := rfl
  have text : "SELECT " ++ "*" ++ " FROM " ++ table ++ "" ++ (" WHERE " ++ clause.text) ++ "" =
      questionText table clause := by
    simp [questionText, ← String.toList_inj]
  simp only [Question.statement, Question.ofRows, Question.ofTable, Question.filterClause, isName,
    columns, accepted, speaks, bind, Except.bind]
  exact congrArg (fun text => Except.ok (Statement.mk text clause.parameters)) text

/-- What has to be so for a question for the rows that meet a condition to be read. -/
structure CanAsk (table : String) (condition : Condition) (clause : Clause) : Prop where
  named : isIdentifier table = true
  accepted : condition.clause table = .ok clause
  free : isReserved table = false
  readable : condition.IsReadable clause 0
  bound : bindValues clause.parameters.length clause.parameters =
    .ok (clause.parameters.map Value.stored)

/-- A question for the rows that meet a condition is answered with these, in some order, if it can be
read. -/
theorem outcome_select_ofRows (found : session.store.database.table? table = some t) (sound : t.Sound)
    (compares : condition.Compares table t) (can : CanAsk table condition clause) :
    ∃ rows : List Sql.Row, rows.Perm (condition.chosen table t) ∧
      (select (.ofRows table condition)).outcome session =
        (.ok (rows.map t.record),
          session.afterAsking ⟨questionText table clause, clause.parameters⟩) := by
  have speaks := compares.isEmpty can.accepted
  obtain ⟨ls, tells⟩ := tells_of_clause can.named can.accepted speaks compares.plain
  obtain ⟨e, meant, read⟩ := parse_question can.named tells can.free can.readable
  have binds : (session.store.env (clause.parameters.map Value.stored)).Binds 0
      (clause.parameters.map Value.stored) := fun i cell at' => by rwa [Nat.zero_add]
  have alone : t.questionNames.areas = [t.area t.name 0] := rfl
  obtain ⟨r, resolved, holds⟩ := compares.holds sound.columns.apart alone meant binds
  obtain ⟨rows, chosen, ran⟩ := run_rowsPlan (fun row mem => (sound.rows row mem).width)
    fun row _ => holds row
  refine ⟨rows, chosen, ?_⟩
  rw [outcome_select_of_run (statement_ofRows can.named can.accepted speaks) read
    (plan_rows (find?_of_table? found) resolved) can.bound ran, Row.ofAnswer, List.map_map]
  rfl

/-- A question for the rows that meet a condition that is answered could be read. -/
theorem canAsk_of_select {t : Sql.Table} (compares : condition.Compares table t)
    {answered : List Registrar.Row} {after : Session}
    (done : (select (.ofRows table condition)).outcome session = (.ok answered, after)) :
    ∃ clause, CanAsk table condition clause := by
  rw [outcome_select] at done
  cases built : (Question.ofRows table condition).statement with
  | error f =>
    rw [built] at done
    cases (Prod.mk.inj done).1
  | ok statement =>
    rw [built] at done
    obtain ⟨valid, _, _, -, -, parts⟩ := Question.built_statement built
    have named : isIdentifier table = true := valid
    obtain ⟨clause, accepted, nonempty⟩ : ∃ clause, condition.clause table = .ok clause ∧
        clause.isEmpty = false := by
      rcases parts with ⟨given, clause, same, accepted, speaks, -⟩ | ⟨silent, -⟩
      · obtain rfl : condition = given := Option.some.inj same
        exact ⟨clause, accepted, speaks⟩
      · obtain ⟨clause, accepted, -⟩ := silent condition rfl
        exact ⟨clause, accepted, compares.isEmpty accepted⟩
    obtain rfl := Except.ok.inj ((statement_ofRows named accepted nonempty).symm.trans built)
    obtain ⟨ls, tells⟩ := tells_of_clause named accepted nonempty compares.plain
    dsimp only at done
    rw [outcome_query] at done
    cases ran : runOn session.store ⟨questionText table clause, clause.parameters⟩ with
    | error fault =>
      rw [ran] at done
      cases (Prod.mk.inj done).1
    | ok result =>
      obtain ⟨parsed, read⟩ := parse_of_runOn ran
      obtain ⟨free, readable⟩ := of_parse_question named tells read
      obtain ⟨e, -, read⟩ := parse_question named tells free readable
      obtain ⟨action, cells, -, bound, -⟩ := of_runOn read ran
      obtain rfl := of_bindValues rfl bound
      exact ⟨clause, named, accepted, free, readable, bound⟩

end Asking

section Changing

variable {session after : Session} {table : String} {t : Sql.Table} {condition : Condition} {n : Nat}

/-- A table is found by its name, and nothing follows it by that name either. -/
theorem found_by_name {db : Database} (found : db.table? table = some t)
    (unfollowed : db.Unfollowed table) : db.table? t.name = some t ∧ db.Unfollowed t.name := by
  have named := name_of_table? found
  refine ⟨by rw [table?_congr named, found], ?_⟩
  rwa [Database.Unfollowed, referencesTo_congr named]

/-- A removal of the rows that meet a condition takes them away and leaves the others, and the question
for them could be read. -/
theorem of_delete (found : session.store.database.table? table = some t) (sound : t.Sound)
    (distinct : (t.rows.map Sql.Row.id).Nodup) (unfollowed : session.store.database.Unfollowed table)
    (compares : condition.Compares table t)
    (done : (delete table (some condition)).outcome session = (.ok n, after)) :
    n = (Int64.ofNat (condition.chosen table t).length).toInt.toNat ∧
      session.store.database.HasRows t.name t
        (condition.spared table t) after.store.database ∧
      ∃ clause, CanAsk table condition clause := by
  rw [delete] at done
  obtain ⟨statement, middle, lifted, done⟩ := of_outcome_bind done
  rw [outcome_lift] at lifted
  obtain ⟨built, rfl⟩ := Prod.mk.inj lifted
  have changes := changesRows_deleteStatement built
  obtain ⟨given, clause, same, named, accepted, speaks, rfl⟩ := built_deleteStatement built
  obtain rfl := Option.some.inj same
  obtain ⟨ls, tells⟩ := tells_of_clause named accepted speaks compares.plain
  obtain ⟨answer, ran, rfl⟩ := of_change changes done
  obtain ⟨parsed, read⟩ := parse_of_runOn ran
  obtain ⟨free, readable, e, meant, rfl⟩ := of_parse_deletion named tells read
  obtain ⟨action, cells, means, bound, ran⟩ := of_runOn read ran
  obtain rfl := of_bindValues rfl bound
  have binds : (session.store.env (clause.parameters.map Value.stored)).Binds 0
      (clause.parameters.map Value.stored) := fun i cell at' => by rwa [Nat.zero_add]
  have alone : t.names.areas = [t.area t.name 0] := rfl
  obtain ⟨r, resolved, holds⟩ := compares.holds sound.columns.apart alone meant binds
  obtain ⟨removal, planned, means⟩ := bind_eq_ok means
  obtain rfl := Except.ok.inj means
  obtain rfl := of_planDelete (find?_of_table? found) resolved planned
  obtain ⟨outcome, removed, ran⟩ := bind_eq_ok ran
  obtain ⟨-, stored⟩ := Prod.mk.inj (Except.ok.inj ran)
  obtain ⟨found, unfollowed⟩ := found_by_name found unfollowed
  obtain ⟨counted, has⟩ := of_removal_run found unfollowed distinct (fun row _ => holds row) removed
  rw [← stored]
  exact ⟨congrArg (fun n => (Int64.ofNat n).toInt.toNat) counted, has, clause, named, accepted, free,
    readable, bound⟩

/-- A change of the rows that meet a condition puts a new row with the new values in the place of each,
and leaves the others. -/
theorem of_update (found : session.store.database.table? table = some t) (sound : t.Sound)
    (distinct : (t.rows.map Sql.Row.id).Nodup) (unfollowed : session.store.database.Unfollowed table)
    (compares : condition.Compares table t) {values : Entries Value}
    (apart : (t.targets values.names).Nodup)
    (done : (update table values condition).outcome session = (.ok n, after)) :
    n = (Int64.ofNat (condition.chosen table t).length).toInt.toNat ∧
      ∃ left revised, session.store.database.HasRows t.name t left after.store.database ∧
        left.Perm ((condition.spared table t) ++ revised) ∧
        List.Forall₂ (t.Revises (Entries.stored values)) (condition.chosen table t)
          revised := by
  rw [update] at done
  obtain ⟨statement, middle, lifted, done⟩ := of_outcome_bind done
  rw [outcome_lift] at lifted
  obtain ⟨built, rfl⟩ := Prod.mk.inj lifted
  have changes := changesRows_updateStatement built
  obtain ⟨clause, named, present, valid, accepted, speaks, rfl⟩ := built_updateStatement built
  obtain ⟨ls, tells⟩ := tells_of_clause named accepted speaks compares.plain
  obtain ⟨answer, ran, rfl⟩ := of_change changes done
  obtain ⟨parsed, read⟩ := parse_of_runOn ran
  obtain ⟨-, -, e, meant, rfl⟩ := of_parse_revision named present valid tells read
  obtain ⟨action, cells, means, bound, ran⟩ := of_runOn read ran
  have names : (Entries.stored values).map Prod.fst = values.names := by
    rw [Entries.stored, List.map_map]
    rfl
  have count : values.names.length + clause.parameters.length =
      (values.values ++ clause.parameters).length := by
    simp [Entries.names, Entries.values]
  obtain rfl := of_bindValues count bound
  have whole : (session.store.env ((values.values ++ clause.parameters).map Value.stored)).Binds 0
      (values.values.map Value.stored ++ clause.parameters.map Value.stored) := fun i cell at' => by
    rw [Nat.zero_add]
    rwa [← List.map_append] at at'
  obtain ⟨bindsValues, binds⟩ := whole.append
  rw [List.length_map, Nat.zero_add] at binds
  have width : values.values.length = values.names.length := by simp [Entries.names, Entries.values]
  rw [width] at binds
  have alone : t.names.areas = [t.area t.name 0] := rfl
  obtain ⟨r, resolved, holds⟩ := compares.holds sound.columns.apart alone meant binds
  obtain ⟨revision, planned, means⟩ := bind_eq_ok means
  obtain rfl := Except.ok.inj means
  obtain ⟨assignments, assigns, rfl⟩ := of_planUpdate (find?_of_table? found) resolved planned
  obtain ⟨outcome, revised, ran⟩ := bind_eq_ok ran
  obtain ⟨-, stored⟩ := Prod.mk.inj (Except.ok.inj ran)
  obtain ⟨found, unfollowed⟩ := found_by_name found unfollowed
  obtain ⟨counted, left, rows, has, parts, each⟩ :=
    of_revision_run found unfollowed distinct (fun row _ => holds row) revised
  rw [← stored]
  refine ⟨congrArg (fun n => (Int64.ofNat n).toInt.toNat) counted, left, rows, has, parts, ?_⟩
  have cells : (Entries.stored values).map Prod.snd = values.values.map Value.stored := by
    rw [Entries.stored, Entries.values, List.map_map, List.map_map]
    rfl
  rw [← names] at assigns apart
  rw [← cells] at bindsValues
  have fit : ∀ row ∈ condition.chosen table t, row.Fits t := fun row mem =>
    sound.rows row (List.mem_filter.1 mem).1
  exact ((List.forall₂_and_left _ _).2 ⟨fit, each⟩).imp fun old new changed =>
    revises_of_revisedCells changed.1 sound.within assigns bindsValues apart changed.2

end Changing

end Call

section Fleet

/-- The declaration of a table of ships. -/
def shipsText : String :=
  "CREATE TABLE ships (ships_id INTEGER PRIMARY KEY, ships_val TEXT, crew INTEGER)"

/-- A table of ships, each with the number of a crew. -/
def shipsTable (rows : List Sql.Row) : Sql.Table :=
  ⟨"ships", [⟨"ships_id", "INTEGER", .integer, .binary, false, 1, none⟩,
    ⟨"ships_val", "TEXT", .text, .binary, false, 0, none⟩,
    ⟨"crew", "INTEGER", .integer, .binary, false, 0, none⟩], some 0, false, [], [], [], rows, shipsText⟩

/-- Two ships, one without a crew. -/
def fleetRows : List Sql.Row :=
  [⟨1, [.integer 1, .text "Defiant", .integer 8]⟩, ⟨2, [.integer 2, .text "Reliant", .null]⟩]

/-- A store of two ships. -/
def fleet : Session :=
  ⟨⟨⟨[.table (shipsTable fleetRows)]⟩, none, true, 2, 2⟩, []⟩

/-- The names and the crews of two ships, as a statement gives them. -/
def fleetValues : List (List Expr) :=
  [[.literal (.text "Defiant"), .literal (.integer 8)], [.literal (.text "Reliant"), .literal .null]]

/-- There can be such a store. -/
theorem reached_fleet : fleet.store.Reached := by
  have declares : (Store.opened .empty).prepare shipsText (.createTable ⟨"ships", "ships", 13⟩ false
      [⟨"ships_id", "INTEGER", [.primaryKey false false]⟩, ⟨"ships_val", "TEXT", []⟩,
        ⟨"crew", "INTEGER", []⟩] []) = .ok (.become ⟨[.table (shipsTable [])]⟩) := rfl
  have declared : (Store.opened .empty).run [] (.become ⟨[.table (shipsTable [])]⟩) =
      .ok (.none, .opened ⟨[.table (shipsTable [])]⟩) := rfl
  have inserts : (Store.opened ⟨[.table (shipsTable [])]⟩).prepare ""
      (.insert "ships" (some ["ships_val", "crew"]) (.values fleetValues) []) =
        .ok (.insert ⟨"ships", [some 1, some 2], fleetValues, []⟩) := rfl
  have inserted : (Store.opened ⟨[.table (shipsTable [])]⟩).run []
      (.insert ⟨"ships", [some 1, some 2], fleetValues, []⟩) = .ok (.none, fleet.store) := rfl
  exact .ran (.ran .opened declares declared) inserts inserted

/-- Ships of the first crews. -/
def manned : Condition :=
  .map [(.compare "crew" "<", .scalar (.integer 9))]

/-- Values for the id of a ship under two of its names. -/
def renumbered : Entries Value :=
  Entries.ofList [("ships_id", .integer 5), ("rowid", .integer 7)]

end Fleet

end Registrar
