import Mathlib.Data.List.Forall2
import Registrar.Proofs.Sql.Beside

/-!
# Questions that join tables

Tables that are joined to the first one of a question by columns that both have.  Beside each row of the
first table stand the rows of each joined table that have the same in the column of the join, or a
missing row if there is none; so every row of the first table is there at least once.  A question is
planned if its condition means something among all these tables and there are no more of them than a
question may join, and it is answered with those rows of which its condition holds.
-/

namespace Registrar.Sql

open Registrar.Text

section Joining

variable {t : Table}

/-- A table that is joined to the first one of a question by a column that both have. -/
structure Partner (t : Table) extends Side where
  column : String
  ours : Nat × Column
  theirs : Nat × Column
  isOurs : t.place? column = some ours
  isTheirs : table.place? column = some theirs

/-- Whether a row of a joined table has the same in the column of the join as a row of the first. -/
def Partner.meets (p : Partner t) (row other : Row) : Bool :=
  Cell.comparison .eq ((slotAt p.theirs).comparisonAffinity (slotAt p.ours))
    ((slotAt p.theirs).comparisonCollation (slotAt p.ours))
    ((other.cells[p.theirs.1]?).getD .null) ((row.cells[p.ours.1]?).getD .null) == some true

/-- The rows of a joined table that meet a row of the first; a missing row if there is none. -/
def Partner.found (p : Partner t) (row : Row) : List (Option Row) :=
  match p.table.rows.filter (p.meets row) with
  | [] => [none]
  | rows => rows.map some

/-- The rows of joined tables that stand beside a row of the first: of each table one that meets it. -/
def companions (row : Row) : List (Partner t) → List (List (Option Row))
  | [] => [[]]
  | p :: ps => (p.found row).flatMap fun part => (companions row ps).map fun parts => part :: parts

/-- The rows of a table, each beside every choice of rows of the joined tables that meet it. -/
def Table.joinedRows (t : Table) (ps : List (Partner t)) : List (Row × List (Option Row)) :=
  t.rows.flatMap fun row => (companions row ps).map fun parts => (row, parts)

/-- The tables of a question that joins others to its first. -/
def sidesOf (t : Table) (ps : List (Partner t)) : List Side :=
  ⟨t.name, t⟩ :: ps.map Partner.toSide

/-- A joined table has some row, or a missing one, beside each row of the first. -/
theorem Partner.found_ne_nil (p : Partner t) (row : Row) : p.found row ≠ [] := by
  unfold Partner.found
  split
  · exact List.cons_ne_nil _ _
  · next rows other => simpa using other

/-- Rows stand beside every row of the first table. -/
theorem companions_ne_nil (row : Row) (ps : List (Partner t)) : companions row ps ≠ [] := by
  induction ps with
  | nil => exact List.cons_ne_nil _ _
  | cons p ps ih =>
    obtain ⟨part, parts, found⟩ := List.exists_cons_of_ne_nil (p.found_ne_nil row)
    obtain ⟨rest, others, behind⟩ := List.exists_cons_of_ne_nil ih
    rw [companions, found, behind]
    exact List.cons_ne_nil _ _

/-- Every row of a table is joined to some rows. -/
theorem exists_joined {row : Row} (among : row ∈ t.rows) (ps : List (Partner t)) :
    ∃ parts, (row, parts) ∈ t.joinedRows ps := by
  obtain ⟨parts, others, some⟩ := List.exists_cons_of_ne_nil (companions_ne_nil row ps)
  refine ⟨parts, List.mem_flatMap.2 ⟨row, among, List.mem_map.2 ⟨parts, ?_, rfl⟩⟩⟩
  rw [some]
  exact List.mem_cons_self

/-- What a joined table has beside a row of the first are rows of its own. -/
theorem Partner.mem_of_found {p : Partner t} {row : Row} {part : Option Row}
    (found : part ∈ p.found row) : ∀ other ∈ part, other ∈ p.table.rows := by
  intro other own
  unfold Partner.found at found
  split at found
  · obtain rfl := List.mem_singleton.1 found
    cases own
  · obtain ⟨r, among, rfl⟩ := List.mem_map.1 found
    obtain rfl := Option.some.inj own
    exact (List.mem_filter.1 among).1

/-- What stands beside a row of the first table are rows of the joined tables. -/
theorem beside_of_companions {row : Row} {ps : List (Partner t)} {parts : List (Option Row)}
    (mem : parts ∈ companions row ps) : Beside (ps.map Partner.toSide) parts := by
  induction ps generalizing parts with
  | nil =>
    obtain rfl := List.mem_singleton.1 mem
    exact .nil
  | cons p ps ih =>
    obtain ⟨part, found, mem⟩ := List.mem_flatMap.1 mem
    obtain ⟨rest, behind, rfl⟩ := List.mem_map.1 mem
    exact .cons (Partner.mem_of_found found) (ih behind)

/-- Which rows of a joined table a question puts beside those before them. -/
def Partner.on (first : Nat) (p : Partner t) : Expr :=
  .binary .eq (slotAt (first + p.theirs.1, p.theirs.2)) (slotAt p.ours)

/-- A joined table, as a question reads it from a slot on. -/
def Partner.relation (first : Nat) (p : Partner t) : Relation :=
  ⟨p.table.area p.name first, p.table.rows.map Row.slots, some p.table, .left, some (p.on first)⟩

/-- Joined tables, as a question reads them from a slot on. -/
def partnerRelations : Nat → List (Partner t) → List Relation
  | _, [] => []
  | first, p :: ps => p.relation first :: partnerRelations (first + p.table.span) ps

variable {env : Env} {before : List Cell} {row other : Row}

/-- A row of a joined table is put beside those that it meets. -/
theorem Partner.holds_on (p : Partner t) (fits : other.Fits p.table) {behind : List Cell}
    (front : before = row.slots ++ behind) (own : row.Fits t) :
    (p.on before.length).holds (env.ofRow (before ++ other.slots)) = .ok (p.meets row other) := by
  have inside : p.theirs.1 < other.cells.length := by
    rw [fits.width]
    exact (List.getElem?_eq_some_iff.1 (of_place? p.isTheirs)).1
  have inside' : p.ours.1 < row.cells.length := by
    rw [own.width]
    exact (List.getElem?_eq_some_iff.1 (of_place? p.isOurs)).1
  have left : (slotAt (before.length + p.theirs.1, p.theirs.2)).eval
      (env.ofRow (before ++ other.slots)) = .ok ((other.cells[p.theirs.1]?).getD .null) := by
    have here : (before ++ other.slots)[before.length + p.theirs.1]? = other.cells[p.theirs.1]? := by
      rw [List.getElem?_append_right (Nat.le_add_right _ _), Nat.add_sub_cancel_left, Row.slots,
        List.getElem?_append_left inside]
    rw [slotAt, Expr.eval]
    simp only [Env.ofRow, here]
  have right : (slotAt p.ours).eval (env.ofRow (before ++ other.slots)) =
      .ok ((row.cells[p.ours.1]?).getD .null) := by
    have here : (before ++ other.slots)[p.ours.1]? = row.cells[p.ours.1]? := by
      rw [front, Row.slots, List.append_assoc, List.append_assoc, List.getElem?_append_left inside']
    rw [slotAt, Expr.eval]
    simp only [Env.ofRow, here]
  rw [Partner.on, holds_equation left right]
  rfl

/-- The rows of a joined table that meet a row of the first are put beside it, or else nothing is. -/
theorem Partner.extend_eq (p : Partner t) (sound : p.table.Sound) {behind : List Cell}
    (front : before = row.slots ++ behind) (own : row.Fits t) :
    (p.relation before.length).extend env (p.table.rows.map Row.slots) before =
      .ok ((p.found row).map fun part => before ++ p.table.cellsOf part) := by
  have tested : ((p.table.rows.map Row.slots).map (before ++ ·)).filterM
      (fun cells => (p.on before.length).holds (env.ofRow cells)) =
        .ok ((p.table.rows.filter (p.meets row)).map fun other => before ++ other.slots) := by
    rw [List.map_map]
    exact filterM_map_eq_ok fun other mem => p.holds_on (sound.rows other mem) front own
  have width : (p.relation before.length).width = p.table.span := by
    simp [Relation.width, Partner.relation, Table.area, Table.span]
  unfold Relation.extend
  simp only [Partner.relation] at tested width ⊢
  simp only [tested, bind, Except.bind]
  unfold Partner.found
  cases p.table.rows.filter (p.meets row) with
  | nil => simp [width, Table.cellsOf]
  | cons other rows => simp [Table.cellsOf]

/-- Joined tables are combined with the rows of the first. -/
theorem combine_partners {rowsOf : Relation → List (List Cell)} {ps : List (Partner t)}
    (sound : ∀ p ∈ ps, p.table.Sound) {first : Nat}
    (reads : ∀ relation ∈ partnerRelations first ps, rowsOf relation = relation.rows)
    {entries : List (List Cell × Row)}
    (front : ∀ entry ∈ entries, entry.1.length = first ∧ entry.2.Fits t ∧
      ∃ behind, entry.1 = entry.2.slots ++ behind) :
    combine env rowsOf (partnerRelations first ps) (entries.map Prod.fst) =
      .ok (entries.flatMap fun entry => (companions entry.2 ps).map fun parts =>
        entry.1 ++ cellsOf (ps.map Partner.toSide) parts) := by
  induction ps generalizing first entries with
  | nil =>
    have alone : (entries.flatMap fun entry => (companions entry.2 ([] : List (Partner t))).map
        fun parts => entry.1 ++ cellsOf [] parts) = entries.map Prod.fst := by
      rw [List.map_eq_flatMap]
      simp [companions, cellsOf]
    rw [List.map_nil, alone]
    rfl
  | cons p ps ih =>
    obtain ⟨own, others⟩ := List.forall_mem_cons.1 sound
    obtain ⟨readsOwn, readsOthers⟩ := List.forall_mem_cons.1 reads
    have extended : (entries.map Prod.fst).mapM
        ((p.relation first).extend env (rowsOf (p.relation first))) =
          .ok (entries.map fun entry =>
            (p.found entry.2).map fun part => entry.1 ++ p.table.cellsOf part) := by
      rw [List.mapM_map]
      refine mapM_eq_ok fun entry mem => ?_
      obtain ⟨rfl, fits, behind, same⟩ := front entry mem
      rw [Function.comp_apply, readsOwn]
      exact p.extend_eq own same fits
    let next : List (List Cell × Row) := entries.flatMap fun entry =>
      (p.found entry.2).map fun part => (entry.1 ++ p.table.cellsOf part, entry.2)
    have rows : (entries.map fun entry =>
        (p.found entry.2).map fun part => entry.1 ++ p.table.cellsOf part).flatten =
          next.map Prod.fst := by
      rw [← List.flatMap_def, List.map_flatMap]
      simp only [List.map_map]
      rfl
    have frontNext : ∀ entry ∈ next, entry.1.length = first + p.table.span ∧ entry.2.Fits t ∧
        ∃ behind, entry.1 = entry.2.slots ++ behind := by
      intro entry mem
      obtain ⟨old, among, mem⟩ := List.mem_flatMap.1 mem
      obtain ⟨part, found, rfl⟩ := List.mem_map.1 mem
      obtain ⟨rfl, fits, behind, same⟩ := front old among
      refine ⟨?_, fits, behind ++ p.table.cellsOf part, ?_⟩
      · rw [List.length_append, length_cellsOf own (Partner.mem_of_found found)]
      · rw [same, List.append_assoc]
    have rest := ih others readsOthers frontNext
    rw [partnerRelations, combine, extended]
    simp only [bind, Except.bind, rows, rest]
    simp only [next, List.flatMap_assoc, List.flatMap_map, companions, List.map_flatMap, List.map_map]
    have cells : ∀ part parts, cellsOf ((p :: ps).map Partner.toSide) (part :: parts) =
        p.table.cellsOf part ++ cellsOf (ps.map Partner.toSide) parts := fun _ _ => rfl
    simp only [Function.comp_def, cells, List.append_assoc]

end Joining

section Planning

variable {db : Database} {t : Table} {given : String} {sides front : List Side}
  {ps : List (Partner t)} {sources : List Source} {names : Names}

/-- A source of a question joins a table to the first one, which goes by some name. -/
structure Source.Joins (db : Database) (given : String) (source : Source) (p : Partner t) : Prop where
  found : db.find? source.table = some (.table p.table)
  kind : source.kind = .left
  named : source.name = some p.name
  unshared : source.shared = []
  on : ∃ a b, source.on = some (.binary .eq (.column (some p.name) p.column false a)
    (.column (some given) p.column false b))

/-- Joined tables with their sources, as they are read from a slot on. -/
def partnerReads : Nat → List Source → List (Partner t) → List (Relation × Source × List Expr)
  | first, source :: sources, p :: ps =>
    ({ p.relation first with on := none }, source, []) ::
      partnerReads (first + p.table.span) sources ps
  | _, _, _ => []

/-- Joined tables are read one behind the other. -/
theorem relations_partners (joins : List.Forall₂ (Source.Joins db given) sources ps)
    (before : List Area) (first : Nat) {depth : Nat} (enough : sources.length < depth) :
    db.relations before first depth sources = .ok (partnerReads first sources ps) := by
  induction joins generalizing before first depth with
  | nil =>
    obtain ⟨depth, rfl⟩ := Nat.exists_eq_add_of_le' (show 1 ≤ depth from enough)
    rfl
  | @cons source p sources ps join _ ih =>
    rw [List.length_cons] at enough
    obtain ⟨depth, rfl⟩ := Nat.exists_eq_add_of_le' (show 2 ≤ depth by omega)
    have read : db.relation first (depth + 1) source = .ok { p.relation first with on := none } := by
      simp only [Database.relation, join.found, join.named, join.kind]
      rfl
    have width : (Relation.mk (p.table.area p.name first) (p.table.rows.map Row.slots)
        (some p.table) .left none).width = p.table.span := by
      simp [Relation.width, Table.area, Table.span]
    rw [Database.relations]
    simp only [read, join.unshared, sharedEquations, bind, Except.bind, Partner.relation, Area.merging_nil,
      width, ih _ _ (show sources.length < depth + 1 by omega)]
    rfl

/-- The names of joined tables are those of their sides. -/
theorem areas_partnerReads (joins : List.Forall₂ (Source.Joins db given) sources ps) (first : Nat) :
    ((partnerReads first sources ps).map fun r => r.1.area) =
      areasFrom first (ps.map Partner.toSide) := by
  induction joins generalizing first with
  | nil => rfl
  | cons _ _ ih => rw [partnerReads, List.map_cons, ih, List.map_cons, areasFrom]; rfl

/-- As many tables are joined as their sources say. -/
theorem length_partnerReads (joins : List.Forall₂ (Source.Joins db given) sources ps) (first : Nat) :
    (partnerReads first sources ps).length = ps.length := by
  induction joins generalizing first with
  | nil => rfl
  | cons _ _ ih => rw [partnerReads, List.length_cons, ih, List.length_cons]

/-- A column is located behind the tables before its own. -/
theorem locate?_append {side : Side} {rest : List Side} {name : String} {place : Nat × Column}
    (separate : (front ++ side :: rest).Pairwise fun a b => sameName a.name b.name = false)
    (found : side.table.place? name = some place) (first : Nat) :
    locate? side.name name first (front ++ side :: rest) =
      some (first + spanOf front + place.1, place.2) := by
  induction front generalizing first with
  | nil =>
    have own : sameName side.name side.name = true := beq_self_eq_true _
    rw [List.nil_append, locate?, if_pos own, found]
    rfl
  | cons other front ih =>
    obtain ⟨others, separate⟩ := List.pairwise_cons.1 separate
    have apart := others side (List.mem_append_right _ List.mem_cons_self)
    have sum : first + other.table.span + spanOf front = first + spanOf (other :: front) := by
      simp [spanOf, Nat.add_assoc]
    rw [List.cons_append, locate?, apart, if_neg Bool.false_ne_true, ih separate, sum]

/-- What joins a table is resolved to its slots and those of the first table. -/
theorem resolve_on {p : Partner t} {rest : List Side} (own : sameName t.name given = true)
    (separate : Separate (⟨t.name, t⟩ :: front ++ p.toSide :: rest))
    (areas : names.areas = areasFrom 0 (⟨t.name, t⟩ :: front ++ p.toSide :: rest)) (a b : Nat) :
    names.resolve (.binary .eq (.column (some p.name) p.column false a)
      (.column (some given) p.column false b)) = .ok (p.on (spanOf (⟨t.name, t⟩ :: front))) := by
  have theirs : names.column (some p.name) p.column false a =
      .ok (slotAt (0 + spanOf (⟨t.name, t⟩ :: front) + p.theirs.1, p.theirs.2)) :=
    column_located separate areas (locate?_append separate.names p.isTheirs 0) false a
  have located : locate? given p.column 0 (⟨t.name, t⟩ :: front ++ p.toSide :: rest) =
      some (0 + p.ours.1, p.ours.2) := by
    rw [List.cons_append, locate?, if_pos own, p.isOurs]
    rfl
  have ours := column_located separate areas located false b
  rw [Nat.zero_add] at theirs ours
  simp only [Names.resolve, theirs, ours, bind, Except.bind]
  rfl

/-- Joined tables are joined by what their sources say. -/
theorem resolveJoins_partners (joins : List.Forall₂ (Source.Joins db given) sources ps)
    (own : sameName t.name given = true)
    (separate : Separate (⟨t.name, t⟩ :: front ++ ps.map Partner.toSide))
    (areas : names.areas = areasFrom 0 (⟨t.name, t⟩ :: front ++ ps.map Partner.toSide)) :
    resolveJoins names (partnerReads (spanOf (⟨t.name, t⟩ :: front)) sources ps) =
      .ok (partnerRelations (spanOf (⟨t.name, t⟩ :: front)) ps) := by
  induction joins generalizing front with
  | nil => rfl
  | @cons source p sources ps join _ ih =>
    obtain ⟨a, b, on⟩ := join.on
    have first := resolve_on own separate areas a b
    have sum : spanOf (⟨t.name, t⟩ :: (front ++ [p.toSide])) =
        spanOf (⟨t.name, t⟩ :: front) + p.table.span := by
      rw [← List.cons_append, spanOf_append]
      rfl
    have rest := @ih (front ++ [p.toSide]) (by simpa using separate) (by simpa using areas)
    rw [sum] at rest
    simp only [partnerReads, resolveJoins, on, Names.resolveOption, first, rest, bind, Except.bind]
    rfl

/-- A column of a question, as it shows it. -/
def shownAt (place : Nat × Column) : Shown :=
  ⟨place.2.name, slotAt place, declaredType (some place.2.declared), false⟩

/-- An output asks for a column of the table that goes by a name. -/
def Output.Asks (output : Output) (pair : String × String) : Prop :=
  ∃ a text, output = .value (.column (some pair.1) pair.2 false a) none text

/-- Columns of the tables of a question are shown. -/
theorem allShown_located (separate : Separate sides) (areas : names.areas = areasFrom 0 sides)
    {outputs : List Output} {pairs : List (String × String)}
    (asks : List.Forall₂ Output.Asks outputs pairs) {places : List (Nat × Column)}
    (located : List.Forall₂ (fun pair place => locate? pair.1 pair.2 0 sides = some place) pairs
      places) : names.allShown outputs = .ok (places.map shownAt) := by
  induction asks generalizing places with
  | nil =>
    cases located
    rfl
  | cons ask _ ih =>
    cases located with
    | @cons pair place _ places here others =>
      obtain ⟨a, text, rfl⟩ := ask
      have resolved := column_located separate areas here false a
      have column := columnOfSlot_located separate here
      rw [← areas] at column
      simp only [Names.allShown, Names.shown, Names.resolve, resolved, ih others, bind, Except.bind,
        slotAt, column]
      rfl

/-- There are no functions of a group among slots. -/
theorem allAggregates_slotAt (places : List (Nat × Column)) :
    Expr.allAggregates ((places.map shownAt).map Shown.e) = [] := by
  induction places with
  | nil => rfl
  | cons place places ih =>
    rw [List.map_cons, List.map_cons, Expr.allAggregates, ih]
    rfl

/-- The names of a question that joins tables to its first. -/
def joinNames (t : Table) (ps : List (Partner t)) : Names :=
  ⟨areasFrom 0 (sidesOf t ps), [], false, true⟩

/-- The plan of a question that joins tables, for the rows that meet a condition. -/
def joinPlan (t : Table) (ps : List (Partner t)) (places : List (Nat × Column)) (r : Expr) : Plan :=
  ⟨t.relation :: partnerRelations t.span ps, some r, false, [], none, places.map shownAt, [], false,
    none, none⟩

/-- The first table of a question is read in front of those that are joined to it. -/
theorem relations_first {name : String} (found : db.find? name = some (.table t))
    (joins : List.Forall₂ (Source.Joins db given) sources ps) {depth : Nat}
    (enough : sources.length < depth) :
    db.relations [] 0 (depth + 1) (onlySource name :: sources) =
      .ok ((t.relation, onlySource name, []) :: partnerReads t.span sources ps) := by
  obtain ⟨n, rfl⟩ := Nat.exists_eq_add_of_le' (show 1 ≤ depth by omega)
  have related : db.relation 0 (n + 1) (onlySource name) = .ok t.relation := by
    simp only [Database.relation, onlySource, found]
    rfl
  have width : 0 + t.relation.width = t.span := by
    simp [Relation.width, Table.relation, Table.area, Table.span]
  have shared : (onlySource name).shared = [] := rfl
  have behind := relations_partners joins ([] ++ [t.relation.area]) t.span enough
  rw [Database.relations, related]
  simp only [bind, Except.bind, shared, sharedEquations, Area.merging_nil, width, behind]

/-- The first table of a question stands where it stands alone, and those that are joined to it are
joined by what their sources say. -/
theorem resolveJoins_first (name : String) (joins : List.Forall₂ (Source.Joins db given) sources ps)
    (own : sameName t.name given = true) (separate : Separate (sidesOf t ps))
    (areas : names.areas = areasFrom 0 (sidesOf t ps)) :
    resolveJoins names ((t.relation, onlySource name, []) :: partnerReads t.span sources ps) =
      .ok (t.relation :: partnerRelations t.span ps) := by
  have alone : spanOf [⟨t.name, t⟩] = t.span := rfl
  have behind : resolveJoins names (partnerReads (spanOf [⟨t.name, t⟩]) sources ps) =
      .ok (partnerRelations (spanOf [⟨t.name, t⟩]) ps) :=
    resolveJoins_partners joins own separate areas
  rw [alone] at behind
  simp only [resolveJoins, onlySource, Names.resolveOption, behind, bind, Except.bind]
  rfl

/-- A question that joins tables is planned once its condition is resolved, unless there are too many
tables. -/
theorem plan_joined {name : String} {outputs : List Output} {pairs : List (String × String)}
    {places : List (Nat × Column)} (found : db.find? name = some (.table t))
    (own : sameName t.name given = true) (separate : Separate (sidesOf t ps))
    (joins : List.Forall₂ (Source.Joins db given) sources ps)
    (asks : List.Forall₂ Output.Asks outputs pairs)
    (located : List.Forall₂ (fun pair place => locate? pair.1 pair.2 0 (sidesOf t ps) = some place)
      pairs places) (e : Expr) :
    db.plan (plainQuery outputs (onlySource name :: sources) (some e)) =
      ((joinNames t ps).resolve e >>= fun r =>
        if mostJoined < ps.length + 1 then .error (Problem.joinedTables mostJoined).bare
        else .ok (joinPlan t ps places r)) := by
  let query := plainQuery outputs (onlySource name :: sources) (some e)
  have levels : (onlySource name :: sources).length + 3 ≤ db.depth query := le_depth db query
  rw [List.length_cons] at levels
  obtain ⟨n, depth⟩ : ∃ n, db.depth query = n + sources.length + 4 :=
    ⟨_, (Nat.sub_add_cancel (show sources.length + 4 ≤ _ by omega)).symm⟩
  have relations : db.relations [] 0 (n + sources.length + 3) query.sources =
      .ok ((t.relation, onlySource name, []) :: partnerReads t.span sources ps) :=
    relations_first found joins (show sources.length < n + sources.length + 2 by omega)
  have areas : (((t.relation, onlySource name, []) ::
      partnerReads t.span sources ps).map fun r => r.1.area) = areasFrom 0 (sidesOf t ps) := by
    rw [List.map_cons, areas_partnerReads joins, sidesOf, areasFrom, Nat.zero_add]
    rfl
  have shown : Names.allShown ⟨areasFrom 0 (sidesOf t ps), [], true, true⟩ outputs =
      .ok (places.map shownAt) := allShown_located separate rfl asks located
  have resolved : resolveJoins ⟨areasFrom 0 (sidesOf t ps), [], false, false⟩
      ((t.relation, onlySource name, []) :: partnerReads t.span sources ps) =
        .ok (t.relation :: partnerRelations t.span ps) := resolveJoins_first name joins own separate rfl
  have unnamed : ((places.map shownAt).filterMap fun s => if s.named then some (s.name, s.e) else none)
      = [] := by
    simp [shownAt]
  rw [Database.plan, depth, Database.planWithin, relations]
  simp only [bind, Except.bind, planOver, areas, plainQuery, shown, unnamed, resolved,
    allAggregates_slotAt, List.isEmpty_nil, Bool.not_true, Bool.or_self, Option.isSome_none,
    Bool.false_and, Bool.false_eq_true, if_false, Names.resolveOption]
  have length : ((t.relation, onlySource name, []) :: partnerReads t.span sources ps).length =
      ps.length + 1 := by
    rw [List.length_cons, length_partnerReads joins]
  rw [length, joinNames]
  cases Names.resolve ⟨areasFrom 0 (sidesOf t ps), [], false, true⟩ e with
  | error fault => rfl
  | ok r => simp only [Names.terms, joinPlan, List.map_nil]

end Planning

section Running

variable {t : Table} {ps : List (Partner t)} {env : Env} {r : Expr}

/-- The cells of a joined row. -/
def joinedCells (t : Table) (ps : List (Partner t)) (joined : Row × List (Option Row)) : List Cell :=
  cellsOf (sidesOf t ps) (some joined.1 :: joined.2)

/-- The slots that are read behind a first table are not those of the first table. -/
theorem first_of_mem_partnerRelations {first : Nat} {relation : Relation}
    (mem : relation ∈ partnerRelations first ps) : first ≤ relation.area.first := by
  induction ps generalizing first with
  | nil => cases mem
  | cons p ps ih =>
    rcases List.mem_cons.1 mem with rfl | mem
    · exact Nat.le_refl first
    · exact Nat.le_trans (Nat.le_add_right first p.table.span) (ih mem)

/-- What is shown of a row are its cells in the slots of the columns. -/
theorem evalAll_shownAt (places : List (Nat × Column)) (env : Env) :
    Expr.evalAll env ((places.map shownAt).map Shown.e) =
      .ok (places.map fun place => (env.cells[place.1]?).getD .null) := by
  induction places with
  | nil => rfl
  | cons place places ih =>
    simp only [List.map_cons, Expr.evalAll, ih, bind, Except.bind, shownAt, slotAt, Expr.eval]

/-- Rows of a first table are combined with those of the tables that are joined to it. -/
theorem combine_joined {rowsOf : Relation → List (List Cell)} {visited : List Row}
    (separate : Separate (sidesOf t ps)) (among : ∀ row ∈ visited, row ∈ t.rows)
    (own : rowsOf t.relation = visited.map Row.slots)
    (others : ∀ relation ∈ partnerRelations t.span ps, rowsOf relation = relation.rows) :
    combine env rowsOf (t.relation :: partnerRelations t.span ps) [[]] =
      .ok ((visited.flatMap fun row => (companions row ps).map fun parts => (row, parts)).map
        (joinedCells t ps)) := by
  have sound : t.Sound := separate.sound _ List.mem_cons_self
  have partners : ∀ p ∈ ps, p.table.Sound := fun p mem =>
    separate.sound p.toSide (List.mem_cons_of_mem _ (List.mem_map_of_mem mem))
  let entries : List (List Cell × Row) := visited.map fun row => (row.slots, row)
  have front : ∀ entry ∈ entries, entry.1.length = t.span ∧ entry.2.Fits t ∧
      ∃ behind, entry.1 = entry.2.slots ++ behind := by
    intro entry mem
    obtain ⟨row, visits, rfl⟩ := List.mem_map.1 mem
    have fits := sound.rows row (among row visits)
    refine ⟨?_, fits, [], (List.append_nil _).symm⟩
    simp [Row.slots, Table.span, fits.width]
  have behind : combine env rowsOf (partnerRelations t.span ps) (entries.map Prod.fst) = _ :=
    combine_partners partners others front
  have slots : entries.map Prod.fst = visited.map Row.slots := by
    rw [List.map_map]
    rfl
  rw [slots] at behind
  rw [combine, own]
  simp only [List.mapM_cons, List.mapM_nil, t.extend_relation, bind, Except.bind, pure, Except.pure,
    List.flatten_cons, List.flatten_nil, List.append_nil, behind]
  simp only [entries, List.flatMap_map, List.map_flatMap, List.map_map]
  rfl

/-- What is shown of joined rows are their cells in the columns that are asked for. -/
theorem map_joinedCells (separate : Separate (sidesOf t ps)) {pairs : List (String × String)}
    {places : List (Nat × Column)}
    (located : List.Forall₂ (fun pair place => locate? pair.1 pair.2 0 (sidesOf t ps) = some place)
      pairs places) {entries : List (Row × List (Option Row))}
    (joined : ∀ entry ∈ entries, entry.1 ∈ t.rows ∧ entry.2 ∈ companions entry.1 ps) :
    (entries.map (joinedCells t ps)).map
        (fun cells => places.map fun place => (cells[place.1]?).getD .null) =
      entries.map fun entry => pairs.map fun pair =>
        cellAt pair.1 pair.2 (sidesOf t ps) (some entry.1 :: entry.2) := by
  rw [List.map_map]
  refine List.map_congr_left fun entry mem => ?_
  obtain ⟨among, found⟩ := joined entry mem
  have beside : Beside (sidesOf t ps) (some entry.1 :: entry.2) := by
    refine .cons (fun own same => ?_) (beside_of_companions found)
    obtain rfl := Option.some.inj same
    exact among
  exact map_located separate beside located

/-- A question that joins tables is answered with the joined rows of those rows of the first table that
its condition holds of. -/
theorem run_joinPlan {keep : Row → Bool} (separate : Separate (sidesOf t ps))
    {pairs : List (String × String)} {places : List (Nat × Column)}
    (located : List.Forall₂ (fun pair place => locate? pair.1 pair.2 0 (sidesOf t ps) = some place)
      pairs places)
    (each : ∀ row ∈ t.rows, ∀ behind,
      r.holds (env.ofRow (row.slots ++ behind)) = .ok (keep row)) :
    ∃ joined : List (Row × List (Option Row)),
      joined.Perm ((t.joinedRows ps).filter fun entry => keep entry.1) ∧
      (joinPlan t ps places r).run env =
        .ok ⟨places.map fun place => (place.2.name, declaredType (some place.2.declared)),
          joined.map fun entry => pairs.map fun pair =>
            cellAt pair.1 pair.2 (sidesOf t ps) (some entry.1 :: entry.2)⟩ := by
  let plan := joinPlan t ps places r
  let visited := t.visited env (plan.used.filter fun slot => slot < t.relation.width) (some r)
  have rearranged : visited.Perm t.rows := visited_perm t env _ _
  let joined := visited.flatMap fun row => (companions row ps).map fun parts => (row, parts)
  have member : ∀ entry ∈ joined, entry.1 ∈ t.rows ∧ entry.2 ∈ companions entry.1 ps := by
    intro entry mem
    obtain ⟨row, visits, mem⟩ := List.mem_flatMap.1 mem
    obtain ⟨parts, found, rfl⟩ := List.mem_map.1 mem
    exact ⟨rearranged.mem_iff.1 visits, found⟩
  have others : ∀ relation ∈ partnerRelations t.span ps,
      plan.rowsOf env relation = relation.rows := by
    intro relation mem
    have behind := first_of_mem_partnerRelations mem
    have positive : relation.area.first ≠ 0 := by
      rw [Table.span] at behind
      omega
    unfold Plan.rowsOf
    split
    · rw [if_neg positive]
    · rfl
  have combined : combine env (plan.rowsOf env) plan.relations [[]] =
      .ok (joined.map (joinedCells t ps)) :=
    combine_joined separate (fun _ visits => rearranged.mem_iff.1 visits) rfl others
  let chosen := joined.filter fun entry => keep entry.1
  have filtered : plan.chosen env (joined.map (joinedCells t ps)) =
      .ok (chosen.map (joinedCells t ps)) :=
    filterM_map_eq_ok fun entry mem => each entry.1 (member entry mem).1 _
  have answer := run_plain (g := fun _ => []) ⟨rfl, rfl, rfl, rfl, rfl⟩ combined filtered
    (fun cells _ => evalAll_shownAt places (env.ofRow cells)) fun _ _ => rfl
  have among : ∀ entry ∈ chosen, entry.1 ∈ t.rows ∧ entry.2 ∈ companions entry.1 ps :=
    fun entry mem => member entry (List.mem_filter.1 mem).1
  refine ⟨chosen, (rearranged.flatMap_right _).filter _, ?_⟩
  rw [answer]
  show Except.ok (Answer.mk ((places.map shownAt).map _) ((chosen.map (joinedCells t ps)).map
    fun cells => places.map fun place => (cells[place.1]?).getD .null)) = _
  rw [map_joinedCells separate located among, List.map_map]
  rfl

end Running

section Comparing

variable {t : Table} {ps : List (Partner t)} {name : String} {place : Nat × Column}

/-- A bare name that is compared stands for the column of the first table, if no joined table has a
column of this name. -/
theorem resolve_bare (separate : Separate (sidesOf t ps)) (found : t.place? name = some place)
    (alone : ∀ p ∈ ps, p.table.columnIndex? name = none) (start number : Nat) :
    (joinNames t ps).resolve (.binary .eq (.column none name false start) (.parameter number)) =
      .ok (.binary .eq (slotAt place) (.parameter number)) := by
  have others : ∀ side ∈ ps.map Partner.toSide, side.table.columnIndex? name = none :=
    List.forall_mem_map.2 alone
  have resolved : (joinNames t ps).column none name false start = .ok (slotAt place) :=
    column_bare separate rfl found others false start
  simp only [Names.resolve, resolved, bind, Except.bind]

/-- A bare name that is compared stands for nothing, if a joined table has a column of this name. -/
theorem resolve_shared (separate : Separate (sidesOf t ps)) (found : t.place? name = some place)
    {p : Partner t} (among : p ∈ ps) (shared : p.table.columnIndex? name ≠ none) (start number : Nat) :
    (joinNames t ps).resolve (.binary .eq (.column none name false start) (.parameter number)) =
      .error ((joinNames t ps).fault (.ambiguousColumn name) start) := by
  have refused : (joinNames t ps).column none name false start =
      .error ((joinNames t ps).fault (.ambiguousColumn name) start) :=
    column_ambiguous separate rfl found (List.mem_map_of_mem among) shared false start
  simp only [Names.resolve, refused, bind, Except.bind]

/-- The comparison of a column of the first table holds of the rows that it holds of in this table
alone. -/
theorem holds_bare {env : Env} {row : Row} {cell : Cell} {number : Nat} (fits : row.Fits t)
    (found : t.place? name = some place) (bound : env.parameters[number - 1]? = some cell)
    (behind : List Cell) :
    (Expr.binary .eq (slotAt place) (.parameter number)).holds (env.ofRow (row.slots ++ behind)) =
      .ok ((Comparator.relation .eq).truth (t.operand row.slots name) [cell] == some true) := by
  have inside : place.1 < row.slots.length := by
    rw [Row.slots, List.length_append, fits.width]
    exact Nat.lt_add_right _ (List.getElem?_eq_some_iff.1 (of_place? found)).1
  have left : (slotAt place).eval (env.ofRow (row.slots ++ behind)) =
      .ok ((row.slots[place.1]?).getD .null) := by
    rw [slotAt, Expr.eval]
    simp only [Env.ofRow, List.getElem?_append_left inside]
  have right : (Expr.parameter number).eval (env.ofRow (row.slots ++ behind)) = .ok cell := by
    have given : (env.ofRow (row.slots ++ behind)).parameters[number - 1]? = some cell := bound
    rw [Expr.eval, given]
    rfl
  have operand : t.operand row.slots name =
      ⟨(row.slots[place.1]?).getD .null, place.2.affinity, place.2.collation⟩ := by
    have here : ((t.columnIndex? name).bind fun i => (t.columns[i]?).map (i, ·)) = some place := found
    rw [Table.operand, here]
  rw [holds_equation left right, operand]
  rfl

end Comparing

end Registrar.Sql
