import Registrar.Sql.Visit

/-!
# Plans

A question whose names have been resolved.  Planning fails on whatever makes a question meaningless;
running a plan can only fail on a value.  The rows of several tables are combined one table after
another, in the order in which the tables are named.
-/

namespace Registrar.Sql

open Registrar.Text

/-- What a question reads rows from. -/
structure Relation where
  area : Area
  rows : List (List Cell)
  /-- The table, unless the rows come from a view. -/
  table : Option Table
  kind : JoinKind
  /-- Which rows match those of the relations before. -/
  on : Option Expr

/-- The number of cells of a row of a relation. -/
def Relation.width (r : Relation) : Nat :=
  r.area.columns.length + (if r.area.idSlot.isSome then 1 else 0)

/-- A column of the answer. -/
structure Shown where
  name : String
  e : Expr
  declared : Option String
  /-- Sorting may refer to the column by its name. -/
  named : Bool

/-- A question whose names have been resolved. -/
structure Plan where
  relations : List Relation
  condition : Option Expr
  /-- Rows are answered in groups. -/
  grouped : Bool
  groupBy : List Expr
  having : Option Expr
  shown : List Shown
  orderBy : List (Expr × Bool)
  distinct : Bool
  limit : Option Expr
  offset : Option Expr

/-- The answer to a question. -/
structure Answer where
  /-- The names of the columns, with the declared types of those that are columns of tables. -/
  columns : List (String × Option String)
  rows : List (List Cell)

/-- A failure of running, as one of planning. -/
def unplaced {α : Type} : Except Problem α → Except Fault α
  | .ok a => .ok a
  | .error p => .error p.bare

/-- The name and declared type of the column behind a slot. -/
def columnOfSlot (areas : List Area) (slot : Nat) : Option (String × Option String) :=
  areas.findSome? fun area =>
    if area.first ≤ slot ∧ slot < area.first + area.columns.length then
      (area.columns[slot - area.first]?).map fun c => (c.name, c.declared)
    else if area.idSlot = some slot then some ("rowid", some "INTEGER")
    else none

/-- A declared type; an empty one is none. -/
def declaredType (declared : Option String) : Option String :=
  declared.filter fun type => !type.isEmpty

/-- The columns that a star stands for. -/
def Area.shown (area : Area) (qualified : Bool) : List Shown :=
  area.columns.zipIdx.filterMap fun entry =>
    if entry.1.merged && !qualified then none
    else some ⟨entry.1.name, area.slot entry.2 entry.1, declaredType entry.1.declared, true⟩

/-- The columns that an output stands for. -/
def Names.shown (names : Names) : Output → Except Fault (List Shown)
  | .all =>
    if names.areas.isEmpty then .error Problem.nothingToSelect.bare
    else .ok (names.areas.flatMap fun area => area.shown false)
  | .allOf table =>
    match names.areas.filter fun area => sameName area.name table with
    | [] => .error (Problem.unknownTable table).bare
    | areas => .ok (areas.flatMap fun area => area.shown true)
  | .value e name source => do
    let e ← names.resolve e
    let column := match e with
      | .slot i _ _ => columnOfSlot names.areas i
      | _ => none
    .ok [⟨name.getD ((column.map Prod.fst).getD source), e,
      declaredType (column.bind Prod.snd), name.isSome⟩]

/-- The columns that several outputs stand for. -/
def Names.allShown (names : Names) : List Output → Except Fault (List Shown)
  | [] => .ok []
  | output :: outputs => do
    let first ← names.shown output
    let rest ← names.allShown outputs
    .ok (first ++ rest)

/-- The column of the answer that a bare name means. -/
def shownByName (shown : List Shown) (name : String) : Option Expr :=
  (shown.find? fun s => s.named && sameName s.name name).map Shown.e

/-- The value that a term to sort or group by stands for: a column of the answer by its name or its
place, or an expression. -/
def Names.term (names : Names) (shown : List Shown) (clause : String) (byName : Bool)
    (index : Nat) (term : OrderTerm) : Except Fault Expr :=
  let named := match term.e with
    | .column none name _ _ => if byName then shownByName shown name else none
    | _ => none
  match named, term.e with
  | some e, _ => .ok e
  | none, .literal (.integer n) =>
    match (if n.toInt < 1 then none else shown[n.toInt.toNat - 1]?) with
    | some s => .ok s.e
    | none => .error ((Problem.orderRange index clause shown.length).at term.place)
  | none, e => names.resolve e

/-- The values that several terms stand for. -/
def Names.terms (names : Names) (shown : List Shown) (clause : String) (byName : Bool) :
    Nat → List OrderTerm → Except Fault (List (Expr × Bool))
  | _, [] => .ok []
  | index, term :: terms => do
    let e ← names.term shown clause byName index term
    let rest ← names.terms shown clause byName (index + 1) terms
    .ok ((e, term.descending) :: rest)

/-- Marks the columns of an area that equal columns of the areas before. -/
def Area.merging (area : Area) (shared : List String) : Area :=
  { area with columns := area.columns.map fun c =>
      if shared.any (sameName c.name) then { c with merged := true } else c }

/-- The equations between shared columns. -/
def sharedEquations (before : List Area) (area : Area) : List String → Except Fault (List Expr)
  | [] => .ok []
  | name :: names =>
    match before.flatMap fun a => a.matches false name, area.matches true name with
    | left :: _, right :: _ => do
      let rest ← sharedEquations before area names
      .ok (.binary .eq left right :: rest)
    | _, _ => .error (Problem.unshared name).bare

/-- The conjunction of some conditions. -/
def conjunction? : List Expr → Option Expr
  | [] => none
  | [e] => some e
  | e :: es => match conjunction? es with
    | some rest => some (.binary .and e rest)
    | none => some e

/-- Resolves which rows of the relations match. -/
def resolveJoins (names : Names) :
    List (Relation × Source × List Expr) → Except Fault (List Relation)
  | [] => .ok []
  | (relation, source, equations) :: rest => do
    let on ← names.resolveOption source.on
    let relations ← resolveJoins names rest
    .ok ({ relation with on := conjunction? (equations ++ on.toList) } :: relations)

/-- The number of tables that can stand side by side. -/
def mostJoined : Nat := 64

/-- Plans a question over relations that have been read. -/
def planOver (relations : List (Relation × Source × List Expr)) (query : Select) :
    Except Fault Plan := do
  let areas := relations.map fun r => r.1.area
  let names : Names := ⟨areas, [], true, true⟩
  let shown ← names.allShown query.outputs
  let grouped := !query.groupBy.isEmpty || !(Expr.allAggregates (shown.map Shown.e)).isEmpty
  let outputs := shown.filterMap fun s => if s.named then some (s.name, s.e) else none
  let inner : Names := { names with outputs, grouping := grouped }
  if query.having.isSome && !grouped then .error Problem.groupless.bare
  else do
    let having ← inner.resolveOption query.having
    let condition ← { inner with grouping := false }.resolveOption query.condition
    let joined ← resolveJoins { inner with placed := false, grouping := false } relations
    let orderBy ← inner.terms shown "ORDER" true 1 query.orderBy
    let groupBy ← { inner with grouping := false }.terms shown "GROUP" false 1 query.groupBy
    let limit ← { names with areas := [] }.resolveOption query.limit
    let offset ← { names with areas := [] }.resolveOption query.offset
    if mostJoined < relations.length then .error (Problem.joinedTables mostJoined).bare
    else .ok ⟨joined, condition, grouped, groupBy.map Prod.fst, having, shown, orderBy,
      query.distinct, limit, offset⟩

/-- All slots that a plan reads. -/
def Plan.used (plan : Plan) : List Nat :=
  Expr.allSlots (plan.shown.map Shown.e) ++ Expr.slotsOf plan.condition ++
    Expr.allSlots plan.groupBy ++ Expr.slotsOf plan.having ++
    Expr.allSlots (plan.orderBy.map Prod.fst) ++
    plan.relations.flatMap fun r => Expr.slotsOf r.on

/-- The rows of one relation that match a row of the relations before. -/
def Relation.extend (env : Env) (relation : Relation) (rows : List (List Cell))
    (before : List Cell) : Except Problem (List (List Cell)) := do
  let candidates := rows.map (before ++ ·)
  let matching ← match relation.on with
    | none => pure candidates
    | some on => candidates.filterM fun cells => on.holds (env.ofRow cells)
  if matching.isEmpty && relation.kind == .left then
    .ok [before ++ List.replicate relation.width Cell.null]
  else .ok matching

/-- The rows of several relations side by side. -/
def combine (env : Env) (rowsOf : Relation → List (List Cell)) :
    List Relation → List (List Cell) → Except Problem (List (List Cell))
  | [], rows => .ok rows
  | relation :: relations, rows => do
    let parts ← rows.mapM (relation.extend env (rowsOf relation))
    combine env rowsOf relations parts.flatten

/-- The row of a group whose values stand for the group: the one that its least or greatest value
comes from, else its first. -/
def representative (env : Env) (aggregates : List Expr) (rows : List (List Cell)) :
    Except Problem (List Cell) :=
  let extreme := aggregates.findSome? fun e =>
    match e with
    | .aggregate .min [e] _ => some (Ordering.lt, e)
    | .aggregate .max [e] _ => some (Ordering.gt, e)
    | _ => none
  match rows, extreme with
  | [], _ => .ok []
  | row :: _, none => .ok row
  | row :: _, some (wanted, e) => do
    let keyed ← rows.mapM fun cells => do
      let a ← e.eval (env.ofRow cells)
      pure (a, cells)
    let collation := e.columnCollation.getD .binary
    match keyed.filter fun entry => !entry.1.isNull with
    | [] => .ok row
    | first :: rest =>
      .ok (rest.foldl (fun best entry =>
        if Cell.order collation entry.1 best.1 == wanted then entry else best) first).2

/-- What a cell is sorted by. -/
def sortCell (e : Expr) (descending : Bool) (cell : Cell) : SortCell :=
  ⟨cell, e.columnCollation.getD .binary, descending⟩

/-- The environments in which a plan shows its columns: one for each row, or for each group. -/
def Plan.environments (plan : Plan) (env : Env) (rows : List (List Cell)) :
    Except Problem (List Env) :=
  if !plan.grouped then .ok (rows.map env.ofRow)
  else do
    let aggregates := Expr.allAggregates (plan.shown.map Shown.e) ++
      Expr.aggregatesOf plan.having ++ Expr.allAggregates (plan.orderBy.map Prod.fst)
    let groups ←
      if plan.groupBy.isEmpty then pure [rows]
      else do
        let keyed ← rows.mapM fun cells => do
          let key ← Expr.evalAll (env.ofRow cells) plan.groupBy
          pure (plan.groupBy.zipWith (sortCell · false) key, cells)
        pure ((runsBy Prod.fst (sortBy Prod.fst keyed)).map fun run => run.map Prod.snd)
    groups.mapM fun group => do
      let cells ← representative env aggregates group
      pure { env with cells, group }

/-- Keeps the first of equal rows. -/
def distinctRows {α : Type} (key : α → List SortCell) : List α → List α
  | [] => []
  | a :: as => a :: (distinctRows key as).filter fun b => compareKeys (key a) (key b) != .eq

/-- A count of rows; what is no whole number is none. -/
def rowCount (cell : Cell) : Except Problem Int :=
  match cell.numeric with
  | .integer n => .ok n.toInt
  | .real x => match Cell.wholeOf? x with
    | some n => .ok n.toInt
    | none => .error .kindMismatch
  | _ => .error .kindMismatch

/-- Keeps as many rows as a limit allows, some left out at the start. -/
def limited {α : Type} (env : Env) (limit offset : Option Expr) (rows : List α) :
    Except Problem (List α) := do
  let most ← match limit with
    | none => pure none
    | some e => do
      let n ← rowCount (← e.eval env)
      pure (if n < 0 then none else some n.toNat)
  let skipped ← match offset with
    | none => pure 0
    | some e => do
      let n ← rowCount (← e.eval env)
      pure n.toNat
  let rest := rows.drop skipped
  .ok ((most.map fun n => rest.take n).getD rest)

/-- The rows that a relation gives, in the order in which the plan visits them. -/
def Plan.rowsOf (plan : Plan) (env : Env) (relation : Relation) : List (List Cell) :=
  match relation.table with
  | some t =>
    if relation.area.first = 0 then
      (t.visited env (plan.used.filter fun slot => slot < relation.width) plan.condition).map
        Row.slots
    else relation.rows
  | none => relation.rows

/-- Runs a plan. -/
def Plan.run (plan : Plan) (env : Env) : Except Problem Answer := do
  let all ← combine env (plan.rowsOf env) plan.relations [[]]
  let rows ← match plan.condition with
    | none => pure all
    | some e => all.filterM fun cells => e.holds (env.ofRow cells)
  let environments ← plan.environments env rows
  let kept ← match plan.having with
    | none => pure environments
    | some e => environments.filterM fun env => e.holds env
  let results ← kept.mapM fun env => do
    let cells ← Expr.evalAll env (plan.shown.map Shown.e)
    let key ← Expr.evalAll env (plan.orderBy.map Prod.fst)
    pure (plan.orderBy.zipWith (fun term cell => sortCell term.1 term.2 cell) key, cells)
  let distinct :=
    if plan.distinct then
      distinctRows (fun result => (plan.shown.map Shown.e).zipWith (sortCell · false) result.2)
        results
    else results
  let sorted := if plan.orderBy.isEmpty then distinct else sortBy Prod.fst distinct
  let shown ← limited env plan.limit plan.offset sorted
  .ok ⟨plan.shown.map fun s => (s.name, s.declared), shown.map Prod.snd⟩

/-- The columns of a view, as other questions see them. -/
def Plan.visible (plan : Plan) (names : List String) : List Visible :=
  plan.shown.zipIdx.map fun entry =>
    ⟨(names[entry.2]?).getD entry.1.name, entry.1.e.affinity.getD .blob,
      entry.1.e.columnCollation.getD .binary, entry.1.declared, false⟩

/-- The type that stands for an affinity. -/
def Affinity.typeName : Affinity → String
  | .blob => "BLOB"
  | .text => "TEXT"
  | .numeric => "NUM"
  | .integer => "INT"
  | .real => "REAL"

/-- The type of a column of a view: the declared type of the column it shows, else the type that
stands for the affinity of the value. -/
def Shown.typeName (s : Shown) : String :=
  match s.e.affinity with
  | none => ""
  | some affinity =>
    let declared := s.declared.getD ""
    if declared.isEmpty || Affinity.ofDeclared declared ≠ affinity then affinity.typeName
    else declared

mutual

/-- Reads the relation that a name stands for, its first cell in a slot. -/
def Database.relation (db : Database) (first : Nat) : Nat → Source → Except Fault Relation
  | 0, source => .error (Problem.unknownTable source.table).bare
  | depth + 1, source =>
    let name := source.name.getD source.table
    match db.find? source.table with
    | none => .error (Problem.unknownTable source.table).bare
    | some (.table t) =>
      .ok ⟨t.area (source.name.getD t.name) first, t.rows.map Row.slots, some t, source.kind, none⟩
    | some (.view v) => do
      let plan ← db.planWithin depth v.query
      let answer ← unplaced (plan.run ⟨[], [], [], 0, 0⟩)
      .ok ⟨⟨name, plan.visible v.columns, first, none⟩, answer.rows, none, source.kind, none⟩

/-- Reads the relations of several names, side by side. -/
def Database.relations (db : Database) (before : List Area) (first : Nat) :
    Nat → List Source → Except Fault (List (Relation × Source × List Expr))
  | 0, _ => .ok []
  | _ + 1, [] => .ok []
  | depth + 1, source :: sources => do
    let relation ← db.relation first depth source
    let equations ← sharedEquations before relation.area source.shared
    let relation := { relation with area := relation.area.merging source.shared }
    let rest ← db.relations (before ++ [relation.area]) (first + relation.width) depth sources
    .ok ((relation, source, equations) :: rest)

/-- Plans a question, views at most so many levels deep. -/
def Database.planWithin (db : Database) : Nat → Select → Except Fault Plan
  | 0, _ => .error (Problem.unsupported "views nested too deeply").bare
  | depth + 1, query => do
    let relations ← db.relations [] 0 depth query.sources
    planOver relations query

end

/-- The levels that planning a question can take. -/
def Database.depth (db : Database) (query : Select) : Nat :=
  db.items.foldl (fun n item => match item with
    | .view v => n + v.query.sources.length + 3
    | .table _ => n) (query.sources.length + 3)

/-- Plans a question. -/
def Database.plan (db : Database) (query : Select) : Except Fault Plan :=
  db.planWithin (db.depth query) query

end Registrar.Sql
