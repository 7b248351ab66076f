import Registrar.Proofs.Sql.Answering
import Registrar.Proofs.Sql.Phrases
import Registrar.Proofs.Sql.Soundness

/-!
# Rows that a condition chooses

What a condition means of the rows of one table, and what a question, a removal and a change do with
the rows that it is true of.  A name means the same in all three: the only column that has it, or the
id of the row.  A question shows the rows that are chosen; a removal takes them away; a change puts a
new row in the place of each.  Rows that may not be followed by others are all that changes.
-/

namespace Registrar.Sql

open Registrar.Text

section Naming

variable {t : Table} {name : String}

/-- The slot of a column, where the first column of its table has a slot. -/
def Table.slot (first i : Nat) (c : Column) : Expr :=
  .slot (first + i) c.affinity c.collation

/-- A column, as a statement that reads its table sees it. -/
def Column.visible (c : Column) : Visible :=
  ⟨c.name, c.affinity, c.collation, some c.declared, false⟩

/-- Columns of which no two have one name are found by their names. -/
theorem matches_columns {columns : List Column}
    (apart : columns.Pairwise fun c d => sameName c.name d.name = false) (first k : Nat)
    (qualified : Bool) (name : String) :
    (((columns.map Column.visible).zipIdx k).filterMap fun entry =>
      if sameName entry.1.name name && (qualified || !entry.1.merged) then
        some (Expr.slot (first + entry.2) entry.1.affinity entry.1.collation)
      else none) =
      ((columns.findIdx? fun c => sameName c.name name).bind fun i =>
        (columns[i]?).map (Table.slot (first + k) i)).toList := by
  induction columns generalizing k with
  | nil => rfl
  | cons c columns ih =>
    obtain ⟨others, apart⟩ := List.pairwise_cons.1 apart
    rw [List.map_cons, List.zipIdx_cons, List.findIdx?_cons]
    cases own : sameName c.name name with
    | true =>
      have none : columns.findIdx? (fun d => sameName d.name name) = none := by
        refine List.findIdx?_eq_none_iff.2 fun d mem => ?_
        rw [← sameName_congr_right own, sameName_comm, others d mem]
      have rest := ih apart (k + 1)
      rw [none] at rest
      simpa [own, Column.visible, Table.slot] using rest
    | false =>
      have rest := ih apart (k + 1)
      have place : ∀ i, Table.slot (first + (k + 1)) i = Table.slot (first + k) (i + 1) := by
        intro i
        funext d
        simp only [Table.slot]
        congr 1
        omega
      simp only [place] at rest
      simpa [own, Column.visible, Option.bind_map, Function.comp_def] using rest

/-- At most one column of a table has a name. -/
theorem matches_area (apart : t.columns.Pairwise fun c d => sameName c.name d.name = false)
    (given : String) (first : Nat) (qualified : Bool) (name : String) :
    (t.area given first).matches qualified name =
      ((t.columnIndex? name).bind fun i => (t.columns[i]?).map (Table.slot first i)).toList :=
  matches_columns apart first 0 qualified name

/-- A column that is found is a column of its table. -/
theorem getElem?_of_columnIndex? {i : Nat} (found : t.columnIndex? name = some i) :
    ∃ c, t.columns[i]? = some c := by
  obtain ⟨inside, -⟩ := List.findIdx?_eq_some_iff_getElem.1 found
  exact ⟨_, List.getElem?_eq_getElem inside⟩

/-- The id has a slot of its own behind the columns, unless a column shows it. -/
theorem idSlot_area (t : Table) (given : String) : (t.area given 0).idSlot = some t.idSlot := by
  rw [Table.area, Table.idSlot]
  cases t.idColumn <;> simp

/-- What a name stands for among the cells of a row: a column, or else the id. -/
def Table.operand (t : Table) (cells : List Cell) (name : String) : Operand :=
  match (t.columnIndex? name).bind fun i => (t.columns[i]?).map (i, ·) with
  | some (i, c) => ⟨(cells[i]?).getD .null, c.affinity, c.collation⟩
  | none => ⟨(cells[t.idSlot]?).getD .null, .integer, .binary⟩

/-- A name that means something for a table means that wherever the table is read alone. -/
theorem operand?_of_known {names : Names} {given : String} (alone : names.areas = [t.area given 0])
    (apart : t.columns.Pairwise fun c d => sameName c.name d.name = false)
    (known : (Database.targetColumn t name).isSome = true) (env : Env) :
    names.operand? env name = some (t.operand env.cells name) := by
  have matching := matches_area apart given 0 false name
  have slots : names.areas.flatMap (fun area => area.matches false name) =
      (t.area given 0).matches false name := by
    rw [alone, List.flatMap_singleton]
  cases found : t.columnIndex? name with
  | some i =>
    obtain ⟨c, here⟩ := getElem?_of_columnIndex? found
    have only : names.areas.flatMap (fun area => area.matches false name) = [Table.slot 0 i c] := by
      rw [slots, matching, found, Option.bind_some, here]
      rfl
    have column : names.column none name false 0 = .ok (Table.slot 0 i c) := by
      simp [Names.column, only]
    simp [Names.operand?, column, Table.slot, Table.operand, found, here]
  | none =>
    have isId : isIdName name = true := by
      rw [Database.targetColumn, found] at known
      by_contra other
      simp [other] at known
    have unmatched : (t.area given 0).matches false name = [] := by
      rw [matching, found]
      rfl
    have column : names.column none name false 0 = .ok (.slot t.idSlot .integer .binary) := by
      simp [Names.column, alone, unmatched, isId, idSlot_area]
    simp [Names.operand?, column, Table.operand, found]

end Naming

section Deciding

variable {t : Table} {env : Env} {r : Expr} {keep : Row → Bool}

/-- An expression holds of a row if it is true of it. -/
theorem holds_of_truth? {names : Names} {e : Expr} (resolved : names.resolve e = .ok r)
    {truth : Option Bool} (known : e.truth? names env = some truth) :
    r.holds env = .ok (truth == some true) := by
  rw [Expr.truth?, resolved] at known
  dsimp only at known
  cases value : r.eval env with
  | error problem =>
    rw [value] at known
    cases known
  | ok cell =>
    rw [value] at known
    rw [Expr.holds, value, ← Option.some.inj known]
    rfl

/-- A condition that has a truth has names that mean something. -/
theorem resolve_of_truth? {names : Names} {e : Expr} {truth : Option Bool}
    (known : e.truth? names env = some truth) : ∃ r, names.resolve e = .ok r := by
  rw [Expr.truth?] at known
  split at known
  · cases known
  · next r resolved => exact ⟨r, resolved⟩

/-- The rows that meet a condition are those that it holds of. -/
theorem meeting_eq (each : ∀ row ∈ t.rows, r.holds (env.ofRow row.slots) = .ok (keep row)) :
    t.meeting env (some r) = .ok (t.rows.filter keep) := by
  have kept : ((t.rows.map id).filterM fun row => r.holds (env.ofRow row.slots)) =
      .ok ((t.rows.filter keep).map id) := filterM_map_eq_ok each
  rwa [List.map_id, List.map_id] at kept

end Deciding

section Asking

variable {db : Database} {t : Table} {name : String} {env : Env} {e r : Expr} {keep : Row → Bool}

/-- All columns of a table, as a question shows them. -/
def Table.shown (t : Table) : List Shown :=
  (t.area t.name 0).shown false

/-- The names of a question for all columns of a table. -/
def Table.questionNames (t : Table) : Names :=
  ⟨[t.area t.name 0], t.shown.filterMap fun s => if s.named then some (s.name, s.e) else none, false,
    true⟩

/-- A column of a table, as a question for all columns shows it. -/
def Column.shown (entry : Column × Nat) : Shown :=
  ⟨entry.1.name, Table.slot 0 entry.2 entry.1, declaredType (some entry.1.declared), true⟩

/-- Every column is shown as it is. -/
theorem shown_eq (t : Table) : t.shown = t.columns.zipIdx.map Column.shown := by
  rw [Table.shown, Area.shown, Table.area]
  simp only [List.zipIdx_map, List.filterMap_map]
  exact congrFun (List.filterMap_eq_map' (f := Column.shown)) t.columns.zipIdx

/-- There are no functions of a group among columns. -/
theorem allAggregates_slots {es : List Expr} (slots : ∀ e ∈ es, ∃ i c, e = Table.slot 0 i c) :
    Expr.allAggregates es = [] := by
  induction es with
  | nil => rfl
  | cons e es ih =>
    obtain ⟨⟨i, c, rfl⟩, others⟩ := List.forall_mem_cons.1 slots
    rw [Expr.allAggregates, ih others]
    rfl

/-- All that a question for all columns shows are columns. -/
theorem slot_of_shown : ∀ e ∈ t.shown.map Shown.e, ∃ i c, e = Table.slot 0 i c := by
  intro e mem
  rw [shown_eq, List.map_map] at mem
  obtain ⟨entry, -, rfl⟩ := List.mem_map.1 mem
  exact ⟨entry.2, entry.1, rfl⟩

/-- The plan of a question for all columns of the rows of a table that meet a condition. -/
def Table.rowsPlan (t : Table) (r : Expr) : Plan :=
  ⟨[t.relation], some r, false, [], none, t.shown, [], false, none, none⟩

/-- A question for all columns of the rows that meet a condition is planned over the table. -/
theorem plan_rows (found : db.find? name = some (.table t))
    (resolved : t.questionNames.resolve e = .ok r) :
    db.plan (rowsQuery name e) = .ok (t.rowsPlan r) := by
  have alone : (t.area t.name 0).shown false = t.shown := rfl
  have ungrouped : Expr.allAggregates (t.shown.map Shown.e) = [] := allAggregates_slots slot_of_shown
  have shown : Names.allShown ⟨[t.area t.name 0], [], true, true⟩ [.all] = .ok t.shown := by
    simp [Names.allShown, Names.shown, alone, bind, Except.bind]
  have area : t.relation.area = t.area t.name 0 := rfl
  rw [Table.questionNames] at resolved
  rw [plan_single found rfl, planOver]
  simp only [rowsQuery, plainQuery, List.map_cons, List.map_nil, area, shown, ungrouped, resolved, bind,
    Except.bind, List.isEmpty_nil, Bool.not_true, Bool.or_self, Option.isSome_none, Bool.false_and,
    Bool.false_eq_true, if_false, Names.resolveOption]
  rfl

/-- The cells of a row are the values of the columns. -/
theorem evalAll_columns {columns : List Column} (before : List Cell) {cells behind : List Cell}
    (width : cells.length = columns.length) (env : Env)
    (row : env.cells = before ++ cells ++ behind) :
    Expr.evalAll env (((columns.zipIdx before.length).map Column.shown).map Shown.e) = .ok cells := by
  induction columns generalizing before cells with
  | nil =>
    rw [List.length_eq_zero_iff.1 width]
    rfl
  | cons c columns ih =>
    cases cells with
    | nil => cases width
    | cons cell cells =>
      have rest := ih (before ++ [cell]) (Nat.succ.inj width) (by simpa using row)
      rw [List.length_append, List.length_singleton] at rest
      have first : (env.cells[before.length]?).getD .null = cell := by
        rw [row]
        simp
      simp only [List.zipIdx_cons, List.map_cons, Expr.evalAll, rest]
      simp [Column.shown, Table.slot, Expr.eval, first, bind, Except.bind]

/-- The name and the declared type of each column of an answer to a question for all columns. -/
def Table.headings (t : Table) : List (String × Option String) :=
  t.columns.map fun c => (c.name, declaredType (some c.declared))

/-- The headings of the answer to a question for all columns. -/
theorem headings_shown (t : Table) : (t.shown.map fun s => (s.name, s.declared)) = t.headings := by
  rw [shown_eq, List.map_map, Table.headings]
  conv => rhs; rw [← List.zipIdx_map_fst 0 t.columns, List.map_map]
  rfl

/-- Rows are only rearranged by an order. -/
theorem inOrderOf_perm (t : Table) (columns : List Nat) (rows : List Row) :
    (t.inOrderOf columns rows).Perm rows := by
  unfold Table.inOrderOf
  split
  · exact .refl rows
  · exact sortBy_perm _ rows

/-- Rows are only rearranged by the parts of a disjunction that reach them. -/
theorem byParts_perm (env : Env) (t : Table) (parts : List (Expr × Service)) (rows : List Row) :
    (Table.byParts env t parts rows).Perm rows := by
  induction parts generalizing rows with
  | nil => exact .refl rows
  | cons part parts ih =>
    exact ((inOrderOf_perm t part.2.columns _).append (ih _)).trans
      (List.filter_append_perm _ rows)

/-- A question visits every row of a table once, in some order. -/
theorem visited_perm (t : Table) (env : Env) (used : List Nat) (condition : Option Expr) :
    (t.visited env used condition).Perm t.rows := by
  unfold Table.visited
  dsimp only
  split
  · exact inOrderOf_perm t _ _
  · split
    · exact byParts_perm env t _ _
    · split
      · exact inOrderOf_perm t _ _
      · exact .refl _

/-- A question for all columns of the rows that meet a condition is answered with the rows that it
holds of, in some order. -/
theorem run_rowsPlan (fit : ∀ row ∈ t.rows, row.cells.length = t.columns.length)
    (each : ∀ row ∈ t.rows, r.holds (env.ofRow row.slots) = .ok (keep row)) :
    ∃ rows : List Row, rows.Perm (t.rows.filter keep) ∧
      (t.rowsPlan r).run env = .ok ⟨t.headings, rows.map Row.cells⟩ := by
  let plan := t.rowsPlan r
  let visited := t.visited env (plan.used.filter fun slot => slot < t.relation.width) (some r)
  have rearranged : visited.Perm t.rows := visited_perm t env _ _
  have visits : plan.rowsOf env t.relation = visited.map Row.slots := rfl
  have filtered : plan.chosen env (visited.map Row.slots) =
      .ok ((visited.filter keep).map Row.slots) :=
    filterM_map_eq_ok fun row mem => each row (rearranged.mem_iff.1 mem)
  have own : ∀ row ∈ visited, row.slots.take t.columns.length = row.cells := by
    intro row mem
    rw [Row.slots, ← fit row (rearranged.mem_iff.1 mem), List.take_left']
    rfl
  have shows : ∀ cells ∈ (visited.filter keep).map Row.slots,
      Expr.evalAll (env.ofRow cells) (plan.shown.map Shown.e) = .ok (cells.take t.columns.length) := by
    intro cells mem
    obtain ⟨row, among, rfl⟩ := List.mem_map.1 mem
    have here := (List.mem_filter.1 among).1
    rw [own row here]
    show Expr.evalAll _ (t.shown.map Shown.e) = _
    rw [shown_eq]
    exact evalAll_columns [] (fit row (rearranged.mem_iff.1 here)) _ rfl
  refine ⟨visited.filter keep, rearranged.filter keep, ?_⟩
  have answer := run_plain (g := fun _ => []) ⟨rfl, rfl, rfl, rfl, rfl⟩ (combine_single visits) filtered
    shows fun _ _ => rfl
  have kept : ((visited.filter keep).map Row.slots).map (List.take t.columns.length) =
      (visited.filter keep).map Row.cells := by
    rw [List.map_map]
    exact List.map_congr_left fun row mem => own row (List.mem_filter.1 mem).1
  rw [answer]
  show Except.ok (Answer.mk _ (((visited.filter keep).map Row.slots).map _)) = _
  rw [kept]
  exact congrArg (fun headings => Except.ok (Answer.mk headings _)) (headings_shown t)

end Asking

end Registrar.Sql
