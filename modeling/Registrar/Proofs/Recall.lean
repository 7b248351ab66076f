import Registrar.Proofs.Insertion
import Registrar.Proofs.Verbs

/-!
# Text that is found again

A filter that asks for a text in a column sends the text through coercion, but an insertion stores the
text as it is.  So a filter finds the text that was stored if what the text is coerced to reads as the
same text; text with a separator is coerced to a list, and such a filter is refused.
-/

namespace Registrar

open Registrar.Text Registrar.Sql Registrar.Sql.Database Call

/-- The conditions that a column has a text: a mapping of one entry, and a list of two. -/
def Condition.equalities (column s : String) : List Condition :=
  [.map [(.column column, .scalar (.text s))], .list [.scalar (.text column), .scalar (.text s)]]

/-- Whether what a text is coerced to reads as the same text, where a collation compares texts. -/
def readsBack (collation : Collation) (s : String) : Bool :=
  match (Value.text s).coerced.stored.textual with
  | .text u => collation.key s == collation.key u
  | _ => false

/-- Whether text is cut into a list where it is coerced. -/
def isCut (s : String) : Bool :=
  s.toList.contains ','

section Coercing

variable {s : String}

/-- Text that is cut becomes a list. -/
theorem coerced_of_cut (cut : isCut s = true) : ∃ items, (Value.text s).coerced = .list items := by
  have list : Coercer.standard.coerceText s = _ := if_pos cut
  exact ⟨_, list⟩

/-- Text that is not cut becomes a number or stays what it is. -/
theorem coerced_of_uncut (uncut : isCut s = false) :
    (∃ n, (Value.text s).coerced = .integer n) ∨ (∃ x, (Value.text s).coerced = .real x) ∨
      (Value.text s).coerced = .text s := by
  have single : (Value.text s).coerced = Coercer.single s := if_neg (Bool.eq_false_iff.1 uncut)
  rw [single]
  exact Coercer.single_cases s

end Coercing

section Equalities

variable {table column s : String} {condition : Condition}

/-- A list stands in no equation. -/
theorem clause_of_cut (mem : condition ∈ Condition.equalities column s) (cut : isCut s = true) :
    ∃ n, condition.clause table = .error (.rejected (.listOperand "=" column n)) := by
  obtain ⟨items, list⟩ := coerced_of_cut cut
  refine ⟨items.length, Condition.clause_of_refused mem ?_⟩
  rw [list, Clause.comparison, if_neg (by decide)]

/-- A single value is compared with one mark. -/
theorem clause_of_uncut (mem : condition ∈ Condition.equalities column s) (uncut : isCut s = false) :
    condition.clause table = .ok ⟨column ++ " = ?", [(Value.text s).coerced]⟩ := by
  have single : (Value.text s).coerced.width? = none := by
    rcases coerced_of_uncut uncut with ⟨n, same⟩ | ⟨x, same⟩ | same <;> rw [same] <;> rfl
  exact Condition.clause_of_equations mem (Clause.comparison_single column single)
    (Clause.isEmpty_equation column _)

end Equalities

section Selecting

variable {t : Sql.Table} {table s : String} {condition : Condition} {i : Nat} {c : Column}
  {row : Sql.Row}

/-- A text equals a cell that is shown as text if the texts are the same. -/
theorem comparison_textual (collation : Collation) (s : String) {cell : Cell} {u : String}
    (present : cell.isNull = false) (shown : cell.textual = .text u) :
    Cell.comparison .eq (some .text) collation (.text s) cell =
      some (collation.key s == collation.key u) := by
  have ordered : Cell.compareWith (some .text) collation (.text s) cell =
      some (compare (collation.key s) (collation.key u)) := by
    have sides : Cell.aligned (some .text) (.text s) cell = (.text s, .text u) := by
      rw [← shown]
      rfl
    have nonempty : ((Cell.text s).isNull || cell.isNull) = false := present
    rw [Cell.compareWith, nonempty, sides]
    rfl
  rw [← compare_beq_eq]
  exact congrArg (Option.map _) ordered

/-- A text equals what it is coerced to, in a column of text, if it reads back. -/
theorem comparison_coerced (collation : Collation) (uncut : isCut s = false) :
    (Cell.comparison .eq (some .text) collation (.text s) (Value.text s).coerced.stored ==
      some true) = readsBack collation s := by
  have decides (truth : Bool) : (some truth == some true) = truth := by cases truth <;> rfl
  rw [readsBack]
  rcases coerced_of_uncut uncut with ⟨n, same⟩ | ⟨x, same⟩ | same
  · have present : (Value.integer n).stored.isNull = false := rfl
    rw [same, comparison_textual collation s present rfl, decides]
    rfl
  · rw [same, Value.stored, Value.cell?, Option.getD_some, Cell.ofReal]
    cases x.isNan with
    | true => rfl
    | false => exact (congrArg (· == some true) (comparison_textual collation s rfl rfl)).trans (decides _)
  · have present : (Value.text s).stored.isNull = false := rfl
    rw [same, comparison_textual collation s present rfl, decides]
    rfl

/-- A condition that a column of text has a text selects a row with this text if the text reads back. -/
theorem selects_text (apart : t.columns.Pairwise fun c d => sameName c.name d.name = false)
    (column : t.columns[i]? = some c) (isText : c.affinity = .text)
    (holds : row.cells[i]? = some (.text s)) (mem : condition ∈ Condition.equalities c.name s)
    (uncut : isCut s = false) : condition.selects table t row = readsBack c.collation s := by
  have single : (Value.text s).coerced.cells = [(Value.text s).coerced.stored] := by
    rcases coerced_of_uncut uncut with ⟨n, same⟩ | ⟨x, same⟩ | same <;> rw [same] <;> rfl
  have equation : Comparator.ofText? "=" = some (.relation .eq) := by decide
  rw [Condition.selects, Condition.meaning_of_equations mem, Term.truth, equation, Option.bind_some,
    columnTruth_of_holds apart column holds, single, isText]
  exact comparison_coerced c.collation uncut

end Selecting

section Asking

variable {session : Session} {table column s : String} {condition : Condition}

/-- A question for the rows with a text can be asked if the text is not cut. -/
theorem canAsk_of_uncut (named : isIdentifier table = true) (free : isReserved table = false)
    (mem : condition ∈ Condition.equalities column s) (uncut : isCut s = false) :
    CanAsk table condition ⟨column ++ " = ?", [(Value.text s).coerced]⟩ := by
  have terms := (Condition.terms_of_equations mem).1
  have listed : ∀ term ∈ condition.terms, term.IsListed := by
    rw [terms, List.forall_mem_singleton]
    intro member
    cases member
  have bound : bindValues 1 [(Value.text s).coerced] = .ok [(Value.text s).coerced.stored] := by
    rcases coerced_of_uncut uncut with ⟨n, same⟩ | ⟨x, same⟩ | same <;> rw [same] <;> rfl
  have few : 0 + 1 ≤ 32766 := by decide
  exact ⟨named, clause_of_uncut mem uncut, free, ⟨listed, fun _ => few⟩, bound⟩

/-- A question for the rows with a text that is cut is refused before it is asked. -/
theorem outcome_select_cut (named : isIdentifier table = true)
    (mem : condition ∈ Condition.equalities column s) (cut : isCut s = true) :
    ∃ n, (select (.ofRows table condition)).outcome session =
      (.error (.rejected (.listOperand "=" column n)), session) := by
  obtain ⟨n, refused⟩ := @clause_of_cut table column s condition mem cut
  refine ⟨n, ?_⟩
  have isName : identifier table = .ok table := identifier_eq_ok_iff.2 ⟨rfl, named⟩
  have columns : Columns.all.text = .ok "*" := rfl
  have statement : (Question.ofRows table condition).statement =
      .error (.rejected (.listOperand "=" column n)) := by
    simp only [Question.statement, Question.ofRows, Question.ofTable, Question.filterClause, isName,
      columns, refused, bind, Except.bind]
    rfl
  rw [outcome_select, statement]

end Asking

section Storing

variable {t : Sql.Table} {env : Env} {pairs : List (String × Value)} {table s : String} {i : Nat}
  {c : Column} {row : Sql.Row}

/-- A new row has the text that a column of text is given. -/
theorem cell_of_receives (sound : t.Sound) (receives : t.Receives env (storedPairs pairs) row)
    (column : t.columns[i]? = some c) (isText : c.affinity = .text)
    (given : (c.name, .text s) ∈ pairs) : row.cells[i]? = some (.text s) := by
  have other : t.idColumn ≠ some i := by
    intro shows
    have integer := sound.affinity_of_shown shows column
    rw [isText] at integer
    cases integer
  have stored := receives.cell_of_given sound.columns.apart column other (List.mem_map_of_mem given)
  rw [stored, isText]
  rfl

end Storing

/-- A filter by a text finds a row that has the text in a column of text if what the text is coerced to
reads as the same text, where the column compares texts; and it is refused if the text is cut into a
list. -/
theorem outcome_select_text {session : Session} {table s : String} {t : Sql.Table} {i : Nat} {c : Column}
    {row : Sql.Row} {condition : Condition} (named : isIdentifier table = true)
    (free : isReserved table = false) (found : session.store.database.table? table = some t)
    (sound : t.Sound) (column : t.columns[i]? = some c) (isText : c.affinity = .text)
    (plain : IsPlainName c.name) (mem : row ∈ t.rows) (holds : row.cells[i]? = some (.text s))
    (asks : condition ∈ Condition.equalities c.name s) :
    if isCut s then
      ∃ n, (select (.ofRows table condition)).outcome session =
        (.error (.rejected (.listOperand "=" c.name n)), session)
    else
      ∃ (rows : List Sql.Row) (later : Session), (select (.ofRows table condition)).outcome session =
        (.ok (rows.map t.record), later) ∧ (row ∈ rows ↔ readsBack c.collation s = true) := by
  cases cut : isCut s with
  | true => exact outcome_select_cut named asks cut
  | false =>
    obtain ⟨terms, speaks⟩ := Condition.terms_of_equations asks
    have compares : condition.Compares table t := by
      refine .of_term terms speaks ⟨plain, by decide⟩ fun own isColumn => ?_
      obtain rfl := Option.mem_some_iff.1 isColumn
      rw [targetColumn_of_column sound.columns.apart column]
      rfl
    obtain ⟨rows, chosen, answers⟩ :=
      outcome_select_ofRows found sound compares (canAsk_of_uncut named free asks cut)
    refine ⟨rows, _, answers, ?_⟩
    rw [chosen.mem_iff, Condition.chosen, List.mem_filter,
      selects_text sound.columns.apart column isText holds asks cut]
    exact and_iff_right mem

/-- What becomes of a text that an insertion stores in a column of text.  The new row has the text that
the column is given, and a filter by a text that the new row has there finds the row if and only if what
the text is coerced to reads as the same text, where the column compares texts; and it is refused if the
text is cut into a list. -/
theorem stored_text_is_found_iff {session after : Session} {table s : String} {values : Entries Value}
    {id : Int64} {t : Sql.Table} {i : Nat} {c : Column} (reached : session.store.Reached)
    (found : session.store.database.table? table = some t) (free : isReserved table = false)
    (column : t.columns[i]? = some c) (isText : c.affinity = .text) (plain : IsPlainName c.name)
    (given : ∀ other ∈ t.columns, (values.get? other.name).isSome = true → IsPlainName other.name)
    (inserted : (insert table values).outcome session = (.ok id, after)) :
    ∃ row grown, row.id = id ∧ (∀ other ∈ t.rows, other.id ≠ id) ∧
      after.store.database.table? table = some grown ∧ grown.rows.Perm (row :: t.rows) ∧
      (∀ info, session.store.database.describe table = .ok info →
        c.name ∈ info.insertColumns.map ColumnInfo.name → values.get? c.name = some (.text s) →
          row.cells[i]? = some (.text s)) ∧
      (row.cells[i]? = some (.text s) → ∀ condition ∈ Condition.equalities c.name s,
        if isCut s then
          ∃ n, (select (.ofRows table condition)).outcome after =
            (.error (.rejected (.listOperand "=" c.name n)), after)
        else
          ∃ (rows : List Sql.Row) (later : Session), (select (.ofRows table condition)).outcome after =
            (.ok (rows.map grown.record), later) ∧
              (row ∈ rows ↔ readsBack c.collation s = true)) := by
  have sound := reached.sound.database
  obtain ⟨info, pairs, row, described, listed, receives, isId, fresh, stored⟩ :=
    of_insert sound found (bareGiven_of_plain found given) inserted
  obtain ⟨own, -⟩ := sound.of_table? found
  have present : after.store.database.table? table =
      some { t with rows := Table.insertRow row t.rows } := by
    rw [stored, table?_withRow sound found]
  have reached : after.store.Reached := by
    have reaches := (Reaches.insert table values).reached session reached
    rwa [inserted] at reaches
  obtain ⟨grown, -⟩ := reached.sound.database.of_table? present
  refine ⟨row, _, isId, fresh, present, insertRow_perm row t.rows, ?_, ?_⟩
  · intro other same among isGiven
    obtain rfl := Except.ok.inj (described.symm.trans same)
    exact cell_of_receives own receives column isText (mem_of_insertPairs listed among isGiven)
  · intro holds condition asks
    exact outcome_select_text (columns_of_describe found described).1 free present grown column isText
      plain (mem_insertRow.2 (.inl rfl)) holds asks

section Fleet

/-- A ship with a name and a crew, to be inserted. -/
def shipNamed (s : String) : Entries Value :=
  Entries.ofList [("ships_val", .text s), ("crew", .integer 5)]

/-- A ship is found by its name, which reads as nothing else. -/
theorem stored_text_is_found_fleet :
    ∃ id after row grown rows later,
      (insert "ships" (shipNamed "Voyager")).outcome fleet = (.ok id, after) ∧
      row.cells[1]? = some (.text "Voyager") ∧
      (select (.ofRows "ships" (.map [(.column "ships_val", .scalar (.text "Voyager"))]))).outcome after =
        (.ok (List.map (Sql.Table.record grown) rows), later) ∧ row ∈ rows := by
  have succeeds : ((insert "ships" (shipNamed "Voyager")).outcome fleet).1.toOption = some 3 := by
    decide +kernel
  have done := outcome_of_toOption succeeds
  have plain : ∀ other ∈ (shipsTable fleetRows).columns,
      ((shipNamed "Voyager").get? other.name).isSome = true → IsPlainName other.name := by decide
  obtain ⟨info, described, listed⟩ : ∃ info, fleet.store.database.describe "ships" = .ok info ∧
      "ships_val" ∈ info.insertColumns.map ColumnInfo.name := ⟨_, rfl, by decide⟩
  obtain ⟨row, grown, -, -, -, -, stores, finds⟩ :=
    stored_text_is_found_iff (c := ⟨"ships_val", "TEXT", .text, .binary, false, 0, none⟩)
      (s := "Voyager") (i := 1) reached_fleet
      (show fleet.store.database.table? "ships" = some (shipsTable fleetRows) from rfl) (by decide) rfl
      rfl (by decide) plain done
  have holds := stores info described listed (by decide)
  have found := finds holds _ List.mem_cons_self
  have uncut : isCut "Voyager" = false := by decide
  have reads : readsBack .binary "Voyager" = true := by decide +kernel
  rw [uncut] at found
  obtain ⟨rows, later, answers, finds⟩ := found
  exact ⟨3, _, row, grown, rows, later, done, holds, answers, finds.2 reads⟩

/-- A ship is not found by a name that reads as another number, and it is not looked for by a name that
is cut into a list. -/
theorem stored_text_is_not_found_fleet :
    (∀ name ∈ ["007", "a,b"],
      ((insert "ships" (shipNamed name)).outcome fleet).1.toOption = some 3 ∧
      ((((insert "ships" (shipNamed name)).outcome fleet).2.store.database.table? "ships").bind
        fun t => t.rows.getLast?) = some ⟨3, [.integer 3, .text name, .integer 5]⟩) ∧
    (∀ condition ∈ Condition.equalities "ships_val" "007",
      ((select (.ofRows "ships" condition)).outcome
        ((insert "ships" (shipNamed "007")).outcome fleet).2).1.toOption.map List.length = some 0) ∧
    ∀ condition ∈ Condition.equalities "ships_val" "a,b",
      ((select (.ofRows "ships" condition)).outcome
        ((insert "ships" (shipNamed "a,b")).outcome fleet).2).1.toBool = false := by
  refine ⟨?_, ?_, ?_⟩
  · decide +kernel
  · decide +kernel
  · decide +kernel

end Fleet

end Registrar
