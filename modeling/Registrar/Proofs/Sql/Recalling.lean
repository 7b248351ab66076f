import Registrar.Proofs.Sql.Answering
import Registrar.Proofs.Sql.Quiet

/-!
# Quiet questions

A question is quiet if all that it asks for, restricts and sorts by is.  It is planned with quiet
expressions, and what its plan answers does not depend on what the connection remembers: no matter in
which order rows are visited, matched, grouped and sorted, every value on the way is that of a quiet
expression.
-/

namespace Registrar.Sql

/-- What is made of the elements of a list may be made before or after they are filtered. -/
theorem filterM_map {ε α β : Type} (f : α → β) (test : β → Except ε Bool) (as : List α) :
    (as.map f).filterM test = ((as.filterM fun a => test (f a)).map (List.map f)) := by
  have collected : ∀ kept, (as.map f).filterAuxM test (kept.map f) =
      (as.filterAuxM (fun a => test (f a)) kept).map (List.map f) := by
    induction as with
    | nil => exact fun kept => rfl
    | cons a as ih =>
      intro kept
      simp only [List.map_cons, List.filterAuxM, bind, Except.bind]
      cases test (f a) with
      | error e => rfl
      | ok keeps =>
        cases keeps with
        | true => exact ih (a :: kept)
        | false => exact ih kept
  have whole := collected []
  rw [List.map_nil] at whole
  simp only [List.filterM, whole, bind, Except.bind, Except.map]
  cases as.filterAuxM (fun a => test (f a)) [] with
  | error e => rfl
  | ok kept => simp [pure, Except.pure]

/-- Steps that take what was found to the same result may be exchanged. -/
theorem bind_congr_of_ok {ε α β : Type} {x y : Except ε α} {f g : α → Except ε β} (same : x = y)
    (next : ∀ a, y = .ok a → f a = g a) : x >>= f = y >>= g := by
  rw [same]
  cases y with
  | error e => rfl
  | ok a => exact next a rfl

/-- A list is mapped alike where each of its elements is. -/
theorem mapM_congr_of_mem {ε α β : Type} {f g : α → Except ε β} {as : List α}
    (same : ∀ a ∈ as, f a = g a) : as.mapM f = as.mapM g := by
  induction as with
  | nil => rfl
  | cons a as ih =>
    rw [List.mapM_cons, List.mapM_cons, same a List.mem_cons_self,
      ih fun other mem => same other (List.mem_cons_of_mem a mem)]

/-- What is made of the results for the elements of a list may be made of each of them. -/
theorem mapM_map_result {ε α β γ : Type} (f : α → Except ε β) (g : β → γ) (as : List α) :
    (as.mapM fun a => (f a).map g) = (as.mapM f).map (List.map g) := by
  induction as with
  | nil => rfl
  | cons a as ih =>
    simp only [List.mapM_cons, ih, bind, Except.bind]
    cases f a with
    | error e => rfl
    | ok b =>
      cases as.mapM f with
      | error e => rfl
      | ok bs => rfl

namespace Expr

/-- Quiet expressions may follow one another. -/
theorem allQuiet_append {es fs : List Expr} (first : allQuiet es = true) (rest : allQuiet fs = true) :
    allQuiet (es ++ fs) = true := by
  rw [allQuiet_iff] at first rest ⊢
  intro e mem
  rcases List.mem_append.1 mem with mem | mem
  · exact first e mem
  · exact rest e mem

/-- The parts of a quiet conjunction are quiet. -/
theorem quiet_conjuncts {e : Expr} (quiet : e.quiet = true) : allQuiet e.conjuncts = true := by
  induction e using Expr.conjuncts.induct with
  | case1 a b first second =>
    rw [Expr.quiet, Bool.and_eq_true] at quiet
    rw [conjuncts]
    exact allQuiet_append (first quiet.1) (second quiet.2)
  | case2 e other =>
    rw [conjuncts, allQuiet, quiet]
    · rfl
    · exact other

/-- The parts of a quiet disjunction are quiet. -/
theorem quiet_disjuncts {e : Expr} (quiet : e.quiet = true) : allQuiet e.disjuncts = true := by
  induction e using Expr.disjuncts.induct with
  | case1 a b first second =>
    rw [Expr.quiet, Bool.and_eq_true] at quiet
    rw [disjuncts]
    exact allQuiet_append (first quiet.1) (second quiet.2)
  | case2 e other =>
    rw [disjuncts, allQuiet, quiet]
    · rfl
    · exact other

mutual

/-- The functions of a group in a quiet expression are quiet. -/
theorem quiet_aggregates : ∀ e : Expr, e.quiet = true → allQuiet e.aggregates = true
  | .aggregate _ _ _, quiet => by
    rw [aggregates, allQuiet, quiet]
    rfl
  | .literal _, _ | .column _ _ _ _, _ | .slot _ _ _, _ | .parameter _, _ => rfl
  | .unary _ e, quiet | .cast e _, quiet | .collate e _, quiet => quiet_aggregates e quiet
  | .binary _ a b, quiet => by
    rw [Expr.quiet, Bool.and_eq_true] at quiet
    exact allQuiet_append (quiet_aggregates a quiet.1) (quiet_aggregates b quiet.2)
  | .between e low high, quiet => by
    rw [Expr.quiet, Bool.and_eq_true, Bool.and_eq_true] at quiet
    exact allQuiet_append (allQuiet_append (quiet_aggregates e quiet.1.1)
      (quiet_aggregates low quiet.1.2)) (quiet_aggregates high quiet.2)
  | .member e items, quiet => by
    rw [Expr.quiet, Bool.and_eq_true] at quiet
    exact allQuiet_append (quiet_aggregates e quiet.1) (quiet_allAggregates items quiet.2)
  | .pattern _ e shape escape, quiet => by
    rw [Expr.quiet, Bool.and_eq_true, Bool.and_eq_true] at quiet
    exact allQuiet_append (allQuiet_append (quiet_aggregates e quiet.1.1)
      (quiet_aggregates shape quiet.1.2)) (quiet_aggregatesOf escape quiet.2)
  | .call _ arguments _ _ _, quiet => by
    rw [Expr.quiet, Bool.and_eq_true] at quiet
    exact quiet_allAggregates arguments quiet.2
  | .choice subject branches otherwise, quiet => by
    rw [Expr.quiet, Bool.and_eq_true, Bool.and_eq_true] at quiet
    exact allQuiet_append (allQuiet_append (quiet_aggregatesOf subject quiet.1.1)
      (quiet_branchAggregates branches quiet.1.2)) (quiet_aggregatesOf otherwise quiet.2)

/-- The functions of a group in quiet expressions are quiet. -/
theorem quiet_allAggregates : ∀ es : List Expr, allQuiet es = true →
    allQuiet (allAggregates es) = true
  | [], _ => rfl
  | e :: es, quiet => by
    rw [allQuiet, Bool.and_eq_true] at quiet
    exact allQuiet_append (quiet_aggregates e quiet.1) (quiet_allAggregates es quiet.2)

/-- The functions of a group in a quiet expression that may be missing are quiet. -/
theorem quiet_aggregatesOf : ∀ e : Option Expr, quietOr e = true → allQuiet (aggregatesOf e) = true
  | none, _ => rfl
  | some e, quiet => quiet_aggregates e quiet

/-- The functions of a group in the quiet branches of a choice are quiet. -/
theorem quiet_branchAggregates : ∀ branches : List (Expr × Expr), branchesQuiet branches = true →
    allQuiet (branchAggregates branches) = true
  | [], _ => rfl
  | (test, e) :: branches, quiet => by
    rw [branchesQuiet, Bool.and_eq_true, Bool.and_eq_true] at quiet
    exact allQuiet_append (allQuiet_append (quiet_aggregates test quiet.1.1)
      (quiet_aggregates e quiet.1.2)) (quiet_branchAggregates branches quiet.2)

end

end Expr

/-! ### Planning -/

/-- Whether an output is quiet. -/
def Output.quiet : Output → Bool
  | .all | .allOf _ => true
  | .value e _ _ => e.quiet

/-- Whether a question is quiet. -/
def Select.quiet (query : Select) : Bool :=
  query.outputs.all Output.quiet && query.sources.all (fun source => Expr.quietOr source.on) &&
    Expr.quietOr query.condition && query.groupBy.all (fun term => term.e.quiet) &&
    Expr.quietOr query.having && query.orderBy.all (fun term => term.e.quiet) &&
    Expr.quietOr query.limit && Expr.quietOr query.offset

/-- All expressions of a plan are quiet. -/
structure Plan.Quiet (plan : Plan) : Prop where
  relations : ∀ r ∈ plan.relations, Expr.quietOr r.on = true
  condition : Expr.quietOr plan.condition = true
  groupBy : Expr.allQuiet plan.groupBy = true
  having : Expr.quietOr plan.having = true
  shown : Expr.allQuiet (plan.shown.map Shown.e) = true
  orderBy : Expr.allQuiet (plan.orderBy.map Prod.fst) = true
  limit : Expr.quietOr plan.limit = true
  offset : Expr.quietOr plan.offset = true

section Planning

variable {names : Names}

/-- The columns that a star stands for are quiet. -/
theorem Area.quiet_shown {area : Area} {qualified : Bool} {s : Shown}
    (mem : s ∈ area.shown qualified) : s.e.quiet = true := by
  obtain ⟨entry, -, shown⟩ := List.mem_filterMap.1 mem
  split at shown
  · cases shown
  · rw [← Option.some.inj shown]
    rfl

/-- What a quiet output stands for is quiet. -/
theorem Names.quiet_of_shown (outputs : names.Quiet) {output : Output} {shown : List Shown}
    (quiet : output.quiet = true) (means : names.shown output = .ok shown) :
    ∀ s ∈ shown, s.e.quiet = true := by
  cases output with
  | all =>
    simp only [Names.shown] at means
    split at means
    · cases means
    · rw [← Except.ok.inj means]
      intro s mem
      obtain ⟨area, -, mem⟩ := List.mem_flatMap.1 mem
      exact Area.quiet_shown mem
  | allOf table =>
    simp only [Names.shown] at means
    split at means
    · cases means
    · rw [← Except.ok.inj means]
      intro s mem
      obtain ⟨area, -, mem⟩ := List.mem_flatMap.1 mem
      exact Area.quiet_shown mem
  | value e name source =>
    obtain ⟨f, resolved, means⟩ := bind_eq_ok means
    rw [← Except.ok.inj means]
    intro s mem
    rw [List.mem_singleton.1 mem]
    exact quiet_of_resolve outputs e f quiet resolved

/-- What quiet outputs stand for is quiet. -/
theorem Names.quiet_of_allShown (names : Names) (outputs : names.Quiet) {asked : List Output}
    {shown : List Shown} (quiet : asked.all Output.quiet = true)
    (means : names.allShown asked = .ok shown) : ∀ s ∈ shown, s.e.quiet = true := by
  induction asked generalizing shown with
  | nil =>
    rw [← Except.ok.inj means]
    exact nofun
  | cons output asked ih =>
    obtain ⟨first, one, means⟩ := bind_eq_ok means
    obtain ⟨rest, more, means⟩ := bind_eq_ok means
    rw [List.all_cons, Bool.and_eq_true] at quiet
    rw [← Except.ok.inj means]
    intro s mem
    rcases List.mem_append.1 mem with mem | mem
    · exact quiet_of_shown outputs quiet.1 one s mem
    · exact ih quiet.2 more s mem

/-- What a quiet term stands for is quiet, if the columns of the answer are. -/
theorem Names.quiet_of_term (outputs : names.Quiet) {shown : List Shown}
    (columns : ∀ s ∈ shown, s.e.quiet = true) {clause : String} {byName : Bool} {index : Nat}
    {term : OrderTerm} {e : Expr} (quiet : term.e.quiet = true)
    (means : names.term shown clause byName index term = .ok e) : e.quiet = true := by
  unfold Names.term at means
  dsimp only at means
  split at means
  · next named =>
    obtain rfl := Except.ok.inj means
    split at named
    · split at named
      · obtain ⟨s, found, rfl⟩ := Option.map_eq_some_iff.1 named
        exact columns s (List.mem_of_find?_eq_some found)
      · cases named
    · cases named
  · split at means
    · next s here =>
      rw [← Except.ok.inj means]
      split at here
      · cases here
      · exact columns s (List.mem_of_getElem? here)
    · cases means
  · exact quiet_of_resolve outputs _ e quiet means

/-- What quiet terms stand for is quiet, if the columns of the answer are. -/
theorem Names.quiet_of_terms (outputs : names.Quiet) {shown : List Shown}
    (columns : ∀ s ∈ shown, s.e.quiet = true) {clause : String} {byName : Bool} {index : Nat}
    {terms : List OrderTerm} {resolved : List (Expr × Bool)}
    (quiet : terms.all (fun term => term.e.quiet) = true)
    (means : names.terms shown clause byName index terms = .ok resolved) :
    Expr.allQuiet (resolved.map Prod.fst) = true := by
  induction terms generalizing index resolved with
  | nil =>
    rw [← Except.ok.inj means]
    rfl
  | cons term terms ih =>
    obtain ⟨e, one, means⟩ := bind_eq_ok means
    obtain ⟨rest, more, means⟩ := bind_eq_ok means
    rw [List.all_cons, Bool.and_eq_true] at quiet
    rw [← Except.ok.inj means, List.map_cons, Expr.allQuiet,
      quiet_of_term outputs columns quiet.1 one, ih quiet.2 more]
    rfl

/-- Equations between shared columns are quiet. -/
theorem quiet_of_sharedEquations {before : List Area} {area : Area} {shared : List String}
    {equations : List Expr} (found : sharedEquations before area shared = .ok equations) :
    Expr.allQuiet equations = true := by
  induction shared generalizing equations with
  | nil =>
    rw [← Except.ok.inj found]
    rfl
  | cons name shared ih =>
    unfold sharedEquations at found
    split at found
    · next left lefts right rights first second =>
      obtain ⟨rest, more, found⟩ := bind_eq_ok found
      have isLeft : left ∈ before.flatMap fun a => a.matches false name := by
        rw [first]
        exact List.mem_cons_self
      have isRight : right ∈ area.matches true name := by
        rw [second]
        exact List.mem_cons_self
      obtain ⟨a, -, isLeft⟩ := List.mem_flatMap.1 isLeft
      rw [← Except.ok.inj found, Expr.allQuiet, Expr.quiet, Names.quiet_of_matches isLeft,
        Names.quiet_of_matches isRight, ih more]
      rfl
    · cases found

/-- The conjunction of quiet conditions is quiet. -/
theorem quiet_conjunction? {es : List Expr} (quiet : Expr.allQuiet es = true) :
    Expr.quietOr (conjunction? es) = true := by
  induction es with
  | nil => rfl
  | cons e es ih =>
    rw [Expr.allQuiet, Bool.and_eq_true] at quiet
    cases es with
    | nil => exact quiet.1
    | cons f es =>
      have rest := ih quiet.2
      rw [conjunction?]
      · split
        · next all found =>
          rw [found] at rest
          rw [Expr.quietOr, Expr.quiet, quiet.1]
          exact rest
        · exact quiet.1
      · exact List.cons_ne_nil f es

/-- Relations that are read come from the sources that are named, and match by quiet equations. -/
theorem of_relations {db : Database} {before : List Area} {first depth : Nat} {sources : List Source}
    {found : List (Relation × Source × List Expr)}
    (read : db.relations before first depth sources = .ok found) :
    ∀ entry ∈ found, entry.2.1 ∈ sources ∧ Expr.allQuiet entry.2.2 = true := by
  induction depth generalizing before first sources found with
  | zero =>
    rw [Database.relations] at read
    rw [← Except.ok.inj read]
    exact List.forall_mem_nil _
  | succ depth ih =>
    cases sources with
    | nil =>
      rw [Database.relations] at read
      rw [← Except.ok.inj read]
      exact List.forall_mem_nil _
    | cons source sources =>
      rw [Database.relations] at read
      obtain ⟨relation, -, read⟩ := bind_eq_ok read
      obtain ⟨equations, shared, read⟩ := bind_eq_ok read
      obtain ⟨rest, more, read⟩ := bind_eq_ok read
      rw [← Except.ok.inj read]
      intro entry mem
      rcases List.mem_cons.1 mem with rfl | mem
      · exact ⟨List.mem_cons_self, quiet_of_sharedEquations shared⟩
      · exact ⟨List.mem_cons_of_mem _ (ih more entry mem).1, (ih more entry mem).2⟩

/-- Relations match by quiet conditions if the conditions that they are given are quiet. -/
theorem quiet_of_resolveJoins (outputs : names.Quiet)
    {found : List (Relation × Source × List Expr)} {joined : List Relation}
    (quiet : ∀ entry ∈ found, Expr.quietOr entry.2.1.on = true ∧ Expr.allQuiet entry.2.2 = true)
    (means : resolveJoins names found = .ok joined) : ∀ r ∈ joined, Expr.quietOr r.on = true := by
  induction found generalizing joined with
  | nil =>
    rw [← Except.ok.inj means]
    exact nofun
  | cons entry found ih =>
    obtain ⟨relation, source, equations⟩ := entry
    obtain ⟨own, matching⟩ := quiet _ List.mem_cons_self
    obtain ⟨on, resolved, means⟩ := bind_eq_ok means
    obtain ⟨rest, more, means⟩ := bind_eq_ok means
    have isQuiet := Names.quiet_of_resolveOption outputs source.on on own resolved
    have condition : Expr.allQuiet on.toList = true := by
      rw [Expr.quietOr_iff] at isQuiet
      exact Expr.allQuiet_iff.2 fun e mem => isQuiet e (Option.mem_toList.1 mem)
    rw [← Except.ok.inj means]
    intro r mem
    rcases List.mem_cons.1 mem with rfl | mem
    · exact quiet_conjunction? (Expr.allQuiet_append matching condition)
    · exact ih (fun other among => quiet other (List.mem_cons_of_mem _ among)) more r mem

/-- A quiet question has a quiet plan. -/
theorem Database.quiet_of_plan {db : Database} {query : Select} {plan : Plan}
    (quiet : query.quiet = true) (planned : db.plan query = .ok plan) : plan.Quiet := by
  simp only [Select.quiet, Bool.and_eq_true] at quiet
  obtain ⟨⟨⟨⟨⟨⟨⟨outputs, sources⟩, condition⟩, groupBy⟩, having⟩, orderBy⟩, limit⟩, offset⟩ := quiet
  unfold Database.plan at planned
  generalize db.depth query = depth at planned
  cases depth with
  | zero =>
    rw [Database.planWithin] at planned
    cases planned
  | succ depth =>
    rw [Database.planWithin] at planned
    obtain ⟨found, read, planned⟩ := bind_eq_ok planned
    have matching : ∀ entry ∈ found,
        Expr.quietOr entry.2.1.on = true ∧ Expr.allQuiet entry.2.2 = true := fun entry mem =>
      ⟨List.all_eq_true.1 sources _ (of_relations read entry mem).1, (of_relations read entry mem).2⟩
    obtain ⟨shown, columns, planned⟩ := bind_eq_ok planned
    have isShown := Names.quiet_of_allShown ⟨found.map fun r => r.1.area, [], true, true⟩
      (List.forall_mem_nil _) outputs columns
    -- the columns that have names are what other expressions may refer to
    have named : ∀ output ∈ shown.filterMap fun s => if s.named then some (s.name, s.e) else none,
        output.2.quiet = true := by
      intro output mem
      obtain ⟨s, among, here⟩ := List.mem_filterMap.1 mem
      split at here
      · rw [← Option.some.inj here]
        exact isShown s among
      · cases here
    dsimp only at planned
    split at planned
    · cases planned
    · obtain ⟨having', one, planned⟩ := bind_eq_ok planned
      obtain ⟨condition', two, planned⟩ := bind_eq_ok planned
      obtain ⟨joined, three, planned⟩ := bind_eq_ok planned
      obtain ⟨orderBy', four, planned⟩ := bind_eq_ok planned
      obtain ⟨groupBy', five, planned⟩ := bind_eq_ok planned
      obtain ⟨limit', six, planned⟩ := bind_eq_ok planned
      obtain ⟨offset', seven, planned⟩ := bind_eq_ok planned
      split at planned
      · cases planned
      · rw [← Except.ok.inj planned]
        exact {
          relations := quiet_of_resolveJoins (by exact named) matching three
          condition := Names.quiet_of_resolveOption (by exact named) _ _ condition two
          groupBy := Names.quiet_of_terms (by exact named) isShown groupBy five
          having := Names.quiet_of_resolveOption (by exact named) _ _ having one
          shown := Expr.allQuiet_iff.2 (by simpa using isShown)
          orderBy := Names.quiet_of_terms (by exact named) isShown orderBy four
          limit := Names.quiet_of_resolveOption (by exact List.forall_mem_nil _) _ _ limit six
          offset := Names.quiet_of_resolveOption (by exact List.forall_mem_nil _) _ _ offset seven }

end Planning

/-! ### Answering -/

section Answering

variable (env : Env) (lastId changes : Int64)

/-- Whether a quiet condition holds does not depend on what the connection remembers. -/
theorem holds_recalling {e : Expr} (quiet : e.quiet = true) :
    e.holds (env.recalling lastId changes) = e.holds env := by
  rw [Expr.holds, Expr.holds, Expr.eval_recalling env lastId changes e quiet]

/-- Which rows meet a quiet condition does not depend on what the connection remembers. -/
theorem holds_ofRow_recalling {e : Expr} (quiet : e.quiet = true) :
    (fun cells => e.holds ((env.recalling lastId changes).ofRow cells)) =
      fun cells => e.holds (env.ofRow cells) :=
  funext fun cells => holds_recalling (env.ofRow cells) lastId changes quiet

/-- The values of quiet expressions for rows do not depend on what the connection remembers. -/
theorem evalAll_ofRow_recalling {es : List Expr} (quiet : Expr.allQuiet es = true)
    (cells : List Cell) : Expr.evalAll ((env.recalling lastId changes).ofRow cells) es =
      Expr.evalAll (env.ofRow cells) es :=
  Expr.evalAll_recalling (env.ofRow cells) lastId changes es quiet

/-- The rows that match do not depend on what the connection remembers. -/
theorem Relation.extend_recalling {relation : Relation} (quiet : Expr.quietOr relation.on = true)
    (rows : List (List Cell)) :
    relation.extend (env.recalling lastId changes) rows = relation.extend env rows := by
  funext before
  unfold Relation.extend
  cases on : relation.on with
  | none => rfl
  | some e =>
    rw [on] at quiet
    have same := holds_ofRow_recalling env lastId changes quiet
    simp only [same]

/-- How rows are combined does not depend on what the connection remembers. -/
theorem combine_recalling (rowsOf : Relation → List (List Cell)) {relations : List Relation}
    (quiet : ∀ r ∈ relations, Expr.quietOr r.on = true) (rows : List (List Cell)) :
    combine (env.recalling lastId changes) rowsOf relations rows =
      combine env rowsOf relations rows := by
  induction relations generalizing rows with
  | nil => rfl
  | cons relation relations ih =>
    have others := ih fun r mem => quiet r (List.mem_cons_of_mem _ mem)
    have first := Relation.extend_recalling env lastId changes (quiet _ List.mem_cons_self)
    simp only [combine, first, others]

/-- The parts of a disjunction that keys serve are among them. -/
theorem Table.mem_of_partServices {t : Table} {es : List Expr} {parts : List (Expr × Service)}
    (served : t.partServices es = some parts) : ∀ part ∈ parts, part.1 ∈ es := by
  induction es generalizing parts with
  | nil =>
    rw [← Option.some.inj served]
    exact nofun
  | cons e es ih =>
    obtain ⟨service, -, served⟩ := Option.bind_eq_some_iff.1 served
    obtain ⟨services, rest, served⟩ := Option.bind_eq_some_iff.1 served
    rw [← Option.some.inj served]
    intro part mem
    rcases List.mem_cons.1 mem with rfl | mem
    · exact List.mem_cons_self
    · exact List.mem_cons_of_mem _ (ih rest part mem)

/-- The order in which the parts of a quiet disjunction reach rows does not depend on what the
connection remembers. -/
theorem Table.byParts_recalling (t : Table) {parts : List (Expr × Service)}
    (quiet : ∀ part ∈ parts, part.1.quiet = true) (rows : List Row) :
    byParts (env.recalling lastId changes) t parts rows = byParts env t parts rows := by
  induction parts generalizing rows with
  | nil => rfl
  | cons part parts ih =>
    obtain ⟨e, service⟩ := part
    have others := ih fun other mem => quiet other (List.mem_cons_of_mem _ mem)
    have first (row : Row) : e.holds ((env.recalling lastId changes).ofRow row.slots) =
        e.holds (env.ofRow row.slots) :=
      holds_recalling (env.ofRow row.slots) lastId changes (quiet _ List.mem_cons_self)
    simp only [byParts, first, others]

/-- The order in which rows are visited does not depend on what the connection remembers. -/
theorem Table.visited_recalling (t : Table) (used : List Nat) {condition : Option Expr}
    (quiet : Expr.quietOr condition = true) :
    t.visited (env.recalling lastId changes) used condition = t.visited env used condition := by
  have conjuncts : Expr.allQuiet ((condition.map Expr.conjuncts).getD []) = true := by
    cases condition with
    | none => rfl
    | some e => exact Expr.quiet_conjuncts quiet
  unfold visited
  dsimp only
  generalize (condition.map Expr.conjuncts).getD [] = es at conjuncts ⊢
  split
  · rfl
  · split
    · next parts others found =>
      refine t.byParts_recalling env lastId changes ?_ t.rows
      have among := List.mem_cons_self (a := parts) (l := others)
      rw [← found] at among
      obtain ⟨e, own, served⟩ := List.mem_filterMap.1 among
      have isQuiet := Expr.allQuiet_iff.1 conjuncts e own
      split at served
      · have each := Expr.allQuiet_iff.1 (Expr.quiet_disjuncts isQuiet)
        exact fun part mem => each part.1 (mem_of_partServices served part mem)
      · cases served
    · rfl

/-- The row that stands for a group does not depend on what the connection remembers. -/
theorem representative_recalling {aggregates : List Expr} (quiet : Expr.allQuiet aggregates = true) :
    representative (env.recalling lastId changes) aggregates = representative env aggregates := by
  funext rows
  unfold representative
  dsimp only
  split
  · rfl
  · rfl
  · next row others wanted e extreme =>
    -- the value comes from the argument of one of the functions
    have isQuiet : e.quiet = true := by
      obtain ⟨f, mem, own⟩ := List.exists_of_findSome?_eq_some extreme
      have whole := Expr.allQuiet_iff.1 quiet f mem
      split at own
      · obtain ⟨-, rfl⟩ := Prod.mk.inj (Option.some.inj own)
        rw [Expr.quiet, Expr.allQuiet, Bool.and_eq_true] at whole
        exact whole.1
      · obtain ⟨-, rfl⟩ := Prod.mk.inj (Option.some.inj own)
        rw [Expr.quiet, Expr.allQuiet, Bool.and_eq_true] at whole
        exact whole.1
      · cases own
    have same (cells : List Cell) : e.eval ((env.recalling lastId changes).ofRow cells) =
        e.eval (env.ofRow cells) :=
      Expr.eval_recalling (env.ofRow cells) lastId changes e isQuiet
    simp only [same]

/-- How many rows a quiet limit keeps does not depend on what the connection remembers. -/
theorem limited_recalling {α : Type} {limit offset : Option Expr}
    (most : Expr.quietOr limit = true) (skipped : Expr.quietOr offset = true) (rows : List α) :
    limited (env.recalling lastId changes) limit offset rows = limited env limit offset rows := by
  have same {e : Expr} (quiet : e.quiet = true) :
      e.eval (env.recalling lastId changes) = e.eval env :=
    Expr.eval_recalling env lastId changes e quiet
  unfold limited
  cases limit with
  | none =>
    cases offset with
    | none => rfl
    | some e => simp only [same skipped]
  | some f =>
    cases offset with
    | none => simp only [same most]
    | some e => simp only [same most, same skipped]

namespace Plan.Quiet

variable {plan : Plan}

/-- The rows that a quiet plan reads do not depend on what the connection remembers. -/
theorem rowsOf_recalling (quiet : plan.Quiet) :
    plan.rowsOf (env.recalling lastId changes) = plan.rowsOf env := by
  funext relation
  unfold Plan.rowsOf
  split
  · next t here => rw [t.visited_recalling env lastId changes _ quiet.condition]
  · rfl

/-- The rows that a quiet plan chooses do not depend on what the connection remembers. -/
theorem chosen_recalling (quiet : plan.Quiet) (rows : List (List Cell)) :
    plan.chosen (env.recalling lastId changes) rows = plan.chosen env rows := by
  unfold Plan.chosen
  cases condition : plan.condition with
  | none => rfl
  | some e =>
    have isQuiet := quiet.condition
    rw [condition] at isQuiet
    simp only [holds_ofRow_recalling env lastId changes isQuiet]

/-- The rows and groups that a quiet plan shows do not depend on what the connection remembers. -/
theorem environments_recalling (quiet : plan.Quiet) (rows : List (List Cell)) :
    plan.environments (env.recalling lastId changes) rows =
      (plan.environments env rows).map (List.map (Env.recalling · lastId changes)) := by
  have aggregates := Expr.allQuiet_append (Expr.allQuiet_append
    (Expr.quiet_allAggregates _ quiet.shown) (Expr.quiet_aggregatesOf _ quiet.having))
    (Expr.quiet_allAggregates _ quiet.orderBy)
  have stands := representative_recalling env lastId changes aggregates
  have keys := evalAll_ofRow_recalling env lastId changes quiet.groupBy
  unfold Plan.environments
  split
  · simp only [Except.map, List.map_map]
    rfl
  · have standing : (fun group => do
        let cells ← representative (env.recalling lastId changes) (Expr.allAggregates
          (plan.shown.map Shown.e) ++ Expr.aggregatesOf plan.having ++
            Expr.allAggregates (plan.orderBy.map Prod.fst)) group
        pure { env.recalling lastId changes with cells, group }) = fun group => (do
        let cells ← representative env (Expr.allAggregates
          (plan.shown.map Shown.e) ++ Expr.aggregatesOf plan.having ++
            Expr.allAggregates (plan.orderBy.map Prod.fst)) group
        pure ({ env with cells, group } : Env)).map (Env.recalling · lastId changes) := by
      funext group
      rw [stands]
      cases representative env _ group <;> rfl
    simp only [standing, keys, mapM_map_result]
    split
    · rfl
    · simp only [bind, Except.bind]
      split <;> rfl

/-- What a quiet plan answers does not depend on what the connection remembers. -/
theorem answer_recalling (quiet : plan.Quiet) (rows : List (List Cell)) :
    plan.answer (env.recalling lastId changes) rows = plan.answer env rows := by
  have shown (env : Env) := Expr.evalAll_recalling env lastId changes _ quiet.shown
  have keys (env : Env) := Expr.evalAll_recalling env lastId changes _ quiet.orderBy
  have limits (results : List (List SortCell × List Cell)) :=
    limited_recalling env lastId changes quiet.limit quiet.offset results
  unfold Plan.answer
  rw [quiet.environments_recalling]
  cases plan.environments env rows with
  | error problem => rfl
  | ok environments =>
    cases having : plan.having with
    | none =>
      simp only [bind, Except.bind, Except.map, pure, Except.pure, List.mapM_map, Function.comp_def,
        shown, keys, limits]
    | some e =>
      have isQuiet := quiet.having
      rw [having] at isQuiet
      have holds (env : Env) := holds_recalling env lastId changes isQuiet
      simp only [bind, Except.bind, Except.map, filterM_map, holds]
      cases environments.filterM fun env => e.holds env with
      | error problem => rfl
      | ok kept =>
        simp only [pure, Except.pure, List.mapM_map, Function.comp_def, shown, keys, limits]

/-- What a quiet plan answers does not depend on what the connection remembers. -/
theorem run_recalling (quiet : plan.Quiet) :
    plan.run (env.recalling lastId changes) = plan.run env := by
  simp only [run_eq, quiet.rowsOf_recalling, combine_recalling env lastId changes _ quiet.relations,
    quiet.chosen_recalling, quiet.answer_recalling]

end Plan.Quiet

end Answering

end Registrar.Sql
