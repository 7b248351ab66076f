import Mathlib.Data.List.Nodup
import Registrar.Proofs.Outcome
import Registrar.Sql.Plan

/-!
# Questions about one table

The answer to a question without groups about one table: what it shows of the rows that meet its
condition, sorted if it asks for that.  A table is visited in the order of its ids or of a key; where
the answer is sorted by different numbers, the order of the visit does not matter.
-/

namespace Registrar.Sql

open Registrar.Text

/-- The value of an equation is known where its sides are. -/
theorem holds_equation {env : Env} {d e : Expr} {a b : Cell} (left : d.eval env = .ok a)
    (right : e.eval env = .ok b) :
    (Expr.binary .eq d e).holds env =
      .ok (Cell.comparison .eq (d.comparisonAffinity e) (d.comparisonCollation e) a b ==
        some true) := by
  have value : (Expr.binary .eq d e).eval env = .ok (Cell.ofTruth
      (Cell.comparison .eq (d.comparisonAffinity e) (d.comparisonCollation e) a b)) := by
    simp only [Expr.eval, left, right, bind, Except.bind]
    rfl
  simp only [Expr.holds, value, bind, Except.bind]
  rcases Cell.comparison .eq (d.comparisonAffinity e) (d.comparisonCollation e) a b with
    _ | _ | _ <;> rfl

/-- Texts are ordered as the same only if they are. -/
theorem compare_beq_eq (a b : String) : (compare a b == .eq) = (a == b) := by
  rw [Bool.eq_iff_iff, beq_iff_eq, beq_iff_eq]
  exact Std.compare_eq_iff_eq

/-- Ids are equal in an equation if they are. -/
theorem compare_integers (m n : Int64) : (compare m.toInt n.toInt == .eq) = (m == n) := by
  rw [Bool.eq_iff_iff, beq_iff_eq, beq_iff_eq, Std.compare_eq_iff_eq, Int64.toInt_inj]

/-- A row is meant by a text where a column without affinity to numbers has this text. -/
theorem holds_text {env : Env} {i k : Nat} {a b : String}
    (shows : env.cells[i]? = some (.text a)) (given : env.parameters[k]? = some (.text b)) :
    (Expr.binary .eq (.slot i .text .binary) (.parameter (k + 1))).holds env = .ok (a == b) := by
  have left : (Expr.slot i .text .binary).eval env = .ok (.text a) := by
    rw [Expr.eval, shows]
    rfl
  have right : (Expr.parameter (k + 1)).eval env = .ok (.text b) := by
    rw [Expr.eval, Nat.add_sub_cancel, given]
    rfl
  rw [holds_equation left right, ← compare_beq_eq]
  show Except.ok (some (compare a b == .eq) == some true) = _
  cases compare a b == .eq <;> rfl

/-- A row is meant by a whole number where a column of whole numbers has it. -/
theorem holds_integer {env : Env} {i k : Nat} {m n : Int64}
    (shows : env.cells[i]? = some (.integer m)) (given : env.parameters[k]? = some (.integer n)) :
    (Expr.binary .eq (.slot i .integer .binary) (.parameter (k + 1))).holds env =
      .ok (m == n) := by
  have left : (Expr.slot i .integer .binary).eval env = .ok (.integer m) := by
    rw [Expr.eval, shows]
    rfl
  have right : (Expr.parameter (k + 1)).eval env = .ok (.integer n) := by
    rw [Expr.eval, Nat.add_sub_cancel, given]
    rfl
  rw [holds_equation left right, ← compare_integers]
  show Except.ok (some (compare m.toInt n.toInt == .eq) == some true) = _
  cases compare m.toInt n.toInt == .eq <;> rfl

section Sorting

variable {α β : Type}

/-- Inserting what is made of an item is making it of the inserted item. -/
theorem insertBy_map (key : β → List SortCell) (f : α → β) (a : α) (items : List α) :
    insertBy key (f a) (items.map f) = (insertBy (key ∘ f) a items).map f := by
  induction items with
  | nil => rfl
  | cons b bs ih =>
    simp only [List.map_cons, insertBy, Function.comp_apply]
    split
    · rw [ih, List.map_cons]
    · rfl

/-- Sorting what is made of some items is making it of the sorted items. -/
theorem sortBy_map (key : β → List SortCell) (f : α → β) (items : List α) :
    sortBy key (items.map f) = (sortBy (key ∘ f) items).map f := by
  induction items with
  | nil => rfl
  | cons a as ih =>
    show insertBy key (f a) (sortBy key (as.map f)) = _
    rw [ih, insertBy_map]
    rfl

variable {key : α → List SortCell} {rank : α → Int}

/-- Where keys are ordered like numbers, inserting into what is in order keeps the order. -/
theorem pairwise_insertBy (ranked : ∀ a b, compareKeys (key a) (key b) = compare (rank a) (rank b))
    (a : α) {items : List α} (sorted : items.Pairwise fun b c => rank b ≤ rank c) :
    (insertBy key a items).Pairwise fun b c => rank b ≤ rank c := by
  induction items with
  | nil => exact List.pairwise_singleton _ a
  | cons b bs ih =>
    obtain ⟨first, others⟩ := List.pairwise_cons.1 sorted
    rw [insertBy, ranked]
    cases less : compare (rank b) (rank a) == .lt with
    | true =>
      have smaller : rank b < rank a := Int.compare_eq_lt.1 (by simpa using less)
      refine List.pairwise_cons.2 ⟨fun c mem => ?_, ih others⟩
      rcases List.mem_cons.1 ((insertBy_perm key a bs).mem_iff.1 mem) with rfl | mem
      · exact Int.le_of_lt smaller
      · exact first c mem
    | false =>
      have least : rank a ≤ rank b := by
        refine Int.not_lt.1 fun smaller => ?_
        rw [Int.compare_eq_lt.2 smaller] at less
        cases less
      refine List.pairwise_cons.2 ⟨fun c mem => ?_, sorted⟩
      rcases List.mem_cons.1 mem with rfl | mem
      · exact least
      · exact Int.le_trans least (first c mem)

/-- Where keys are ordered like numbers, what is sorted is in order. -/
theorem pairwise_sortBy (ranked : ∀ a b, compareKeys (key a) (key b) = compare (rank a) (rank b))
    (items : List α) : (sortBy key items).Pairwise fun b c => rank b ≤ rank c := by
  induction items with
  | nil => exact .nil
  | cons a as ih => exact pairwise_insertBy ranked a ih

/-- Items of different numbers have one order only, so that sorting finds it again, however they were
rearranged. -/
theorem sortBy_eq_of_perm (ranked : ∀ a b, compareKeys (key a) (key b) = compare (rank a) (rank b))
    {items inOrder : List α} (rearranged : items.Perm inOrder)
    (increasing : inOrder.Pairwise fun a b => rank a < rank b) : sortBy key items = inOrder := by
  have same : (sortBy key items).Perm inOrder := (sortBy_perm key items).trans rearranged
  have sorted := pairwise_sortBy ranked items
  refine same.eq_of_pairwise (fun a b among here le ge => ?_) sorted (increasing.imp Int.le_of_lt)
  -- items of different numbers are the same where their numbers are
  have apart : (inOrder.map rank).Nodup := List.pairwise_map.2 (increasing.imp Int.ne_of_lt)
  exact List.inj_on_of_nodup_map apart (same.mem_iff.1 among) here (Int.le_antisymm le ge)

end Sorting

section Planning

/-- There are levels enough to plan a question. -/
theorem le_depth (db : Database) (query : Select) : query.sources.length + 3 ≤ db.depth query := by
  unfold Database.depth
  generalize query.sources.length + 3 = n
  induction db.items generalizing n with
  | nil => exact Nat.le_refl n
  | cons item items ih =>
    cases item with
    | table t => exact ih n
    | view v => exact Nat.le_trans (Nat.le_add_right n (v.query.sources.length + 3)) (ih _)

/-- A table, as a question about it alone reads it. -/
def Table.relation (t : Table) : Relation :=
  ⟨t.area t.name 0, t.rows.map Row.slots, some t, .inner, none⟩

/-- A table that is read alone, as it is named in a question. -/
def onlySource (name : String) : Source :=
  ⟨.inner, name, none, none, []⟩

/-- An area that shares no column with those before it stays as it is. -/
theorem Area.merging_nil (area : Area) : area.merging [] = area := by
  simp [Area.merging]

/-- A question about one table is planned over the rows of the table. -/
theorem plan_single {db : Database} {name : String} {t : Table} {query : Select}
    (found : db.find? name = some (.table t)) (single : query.sources = [onlySource name]) :
    db.plan query = planOver [(t.relation, onlySource name, [])] query := by
  have levels := le_depth db query
  rw [single] at levels
  obtain ⟨n, depth⟩ : ∃ n, db.depth query = n + 4 := ⟨_, (Nat.sub_add_cancel levels).symm⟩
  have related : db.relation 0 (n + 2) (onlySource name) = .ok t.relation := by
    simp only [Database.relation, onlySource, found]
    rfl
  have relations : db.relations [] 0 (n + 3) query.sources =
      .ok [(t.relation, onlySource name, [])] := by
    simp only [single, Database.relations, related, bind, Except.bind]
    show Except.ok [({ t.relation with area := (t.area t.name 0).merging [] },
      onlySource name, [])] = _
    rw [Area.merging_nil]
    rfl
  rw [Database.plan, depth, Database.planWithin, relations]
  rfl

end Planning

section Running

variable {plan : Plan} {env : Env} {t : Table}

/-- A table that a question reads first gives its rows. -/
theorem Table.extend_relation (t : Table) (env : Env) (visited : List (List Cell)) :
    t.relation.extend env visited [] = .ok visited := by
  simp [Relation.extend, Table.relation, pure, Except.pure, bind, Except.bind]

/-- A table that is read alone gives the rows that are visited. -/
theorem combine_single {visited : List (List Cell)}
    (visits : plan.rowsOf env t.relation = visited) :
    combine env (plan.rowsOf env) [t.relation] [[]] = .ok visited := by
  simp [combine, visits, t.extend_relation, pure, Except.pure, bind, Except.bind]

/-- A plan that answers neither in groups nor only some of the rows. -/
structure Plan.IsPlain (plan : Plan) : Prop where
  ungrouped : plan.grouped = false
  each : plan.having = none
  repeated : plan.distinct = false
  unlimited : plan.limit = none
  complete : plan.offset = none

/-- The rows that meet the condition of a plan. -/
def Plan.chosen (plan : Plan) (env : Env) (rows : List (List Cell)) :
    Except Problem (List (List Cell)) :=
  match plan.condition with
  | none => .ok rows
  | some e => rows.filterM fun cells => e.holds (env.ofRow cells)

/-- What a plan sorts a row by, given the values of its terms. -/
def Plan.sortKey (plan : Plan) (cells : List Cell) : List SortCell :=
  plan.orderBy.zipWith (fun term cell => sortCell term.1 term.2 cell) cells

/-- The answer that a plan gives of the rows that meet its condition. -/
def Plan.answer (plan : Plan) (env : Env) (rows : List (List Cell)) : Except Problem Answer := do
  let environments ← plan.environments env rows
  let kept ← match plan.having with
    | none => pure environments
    | some e => environments.filterM fun env => e.holds env
  let results ← kept.mapM fun env => do
    let cells ← Expr.evalAll env (plan.shown.map Shown.e)
    let key ← Expr.evalAll env (plan.orderBy.map Prod.fst)
    pure (plan.sortKey key, cells)
  let distinct :=
    if plan.distinct then
      distinctRows (fun result => (plan.shown.map Shown.e).zipWith (sortCell · false) result.2)
        results
    else results
  let sorted := if plan.orderBy.isEmpty then distinct else sortBy Prod.fst distinct
  let shown ← limited env plan.limit plan.offset sorted
  .ok ⟨plan.shown.map fun s => (s.name, s.declared), shown.map Prod.snd⟩

/-- A plan combines rows, chooses some of them and answers with these. -/
theorem run_eq (plan : Plan) (env : Env) :
    plan.run env = (do
      let all ← combine env (plan.rowsOf env) plan.relations [[]]
      let rows ← plan.chosen env all
      plan.answer env rows) := by
  unfold Plan.run Plan.chosen
  cases plan.condition <;> rfl

/-- A plain plan answers with what it shows of the rows that meet its condition, sorted if it has
terms to sort by. -/
theorem run_plain {all chosen : List (List Cell)} {f g : List Cell → List Cell} (plain : plan.IsPlain)
    (read : combine env (plan.rowsOf env) plan.relations [[]] = .ok all)
    (filtered : plan.chosen env all = .ok chosen)
    (shown : ∀ cells ∈ chosen, Expr.evalAll (env.ofRow cells) (plan.shown.map Shown.e) =
      .ok (f cells))
    (keyed : ∀ cells ∈ chosen, Expr.evalAll (env.ofRow cells) (plan.orderBy.map Prod.fst) =
      .ok (g cells)) :
    plan.run env =
      .ok ⟨plan.shown.map fun s => (s.name, s.declared),
        (if plan.orderBy.isEmpty then chosen
          else sortBy (fun cells => plan.sortKey (g cells)) chosen).map f⟩ := by
  have results : (chosen.map env.ofRow).mapM (fun env => do
      let cells ← Expr.evalAll env (plan.shown.map Shown.e)
      let key ← Expr.evalAll env (plan.orderBy.map Prod.fst)
      pure (plan.sortKey key, cells)) =
        .ok (chosen.map fun cells => (plan.sortKey (g cells), f cells)) := by
    rw [List.mapM_map]
    refine mapM_eq_ok fun cells mem => ?_
    simp only [Function.comp_apply, shown cells mem, keyed cells mem, bind, Except.bind, pure,
      Except.pure]
  have sorted : (sortBy Prod.fst (chosen.map fun cells => (plan.sortKey (g cells), f cells))).map
      Prod.snd = (sortBy (fun cells => plan.sortKey (g cells)) chosen).map f := by
    rw [sortBy_map, List.map_map]
    rfl
  obtain ⟨ungrouped, each, repeated, unlimited, complete⟩ := plain
  have environments : plan.environments env chosen = .ok (chosen.map env.ofRow) := by
    rw [Plan.environments, ungrouped]
    rfl
  simp only [run_eq, read, filtered, Plan.answer, environments, each, repeated, unlimited, complete,
    limited, bind, Except.bind, pure, Except.pure] at results ⊢
  rw [results]
  cases plan.orderBy.isEmpty with
  | true => simp
  | false => simpa using sorted

end Running

end Registrar.Sql
