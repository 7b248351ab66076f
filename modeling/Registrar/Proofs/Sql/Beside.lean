import Registrar.Proofs.Sql.Choosing

/-!
# Tables side by side

A question that joins tables to its first sees their columns side by side, each table with the slots
behind those of the tables before it.  A column behind the name of its table stands for the slot of
this column, if the tables go by different names.  A bare name stands for the column of the first table
only if no other table has a column of this name; otherwise it stands for nothing, although the first
table would have meant its own.
-/

namespace Registrar.Sql

open Registrar.Text

/-- Where a table has a column of a name. -/
def Table.place? (t : Table) (name : String) : Option (Nat × Column) :=
  (t.columnIndex? name).bind fun i => (t.columns[i]?).map (i, ·)

/-- The number of cells of a row of a table in a question: its own, and its id. -/
def Table.span (t : Table) : Nat :=
  t.columns.length + 1

/-- A table in a question, under the name that it goes by there. -/
structure Side where
  name : String
  table : Table

/-- The number of cells of a row of several tables side by side. -/
def spanOf : List Side → Nat
  | [] => 0
  | side :: sides => side.table.span + spanOf sides

/-- Tables behind others add their span to that of the others. -/
theorem spanOf_append (front sides : List Side) :
    spanOf (front ++ sides) = spanOf front + spanOf sides := by
  induction front with
  | nil => exact (Nat.zero_add _).symm
  | cons side front ih => rw [List.cons_append, spanOf, ih, spanOf, Nat.add_assoc]

/-- The names of several tables side by side, from a slot on. -/
def areasFrom : Nat → List Side → List Area
  | _, [] => []
  | first, side :: sides =>
    side.table.area side.name first :: areasFrom (first + side.table.span) sides

/-- Where the tables of a question have a column of a name, of the table that goes by another name. -/
def locate? (given name : String) : Nat → List Side → Option (Nat × Column)
  | _, [] => none
  | first, side :: sides =>
    if sameName side.name given then
      (side.table.place? name).map fun place => (first + place.1, place.2)
    else locate? given name (first + side.table.span) sides

/-- The tables of a question are sound, and have names of their own. -/
structure Separate (sides : List Side) : Prop where
  names : sides.Pairwise fun a b => sameName a.name b.name = false
  sound : ∀ side ∈ sides, side.table.Sound

/-- The slot of a column in a question. -/
def slotAt (place : Nat × Column) : Expr :=
  .slot place.1 place.2.affinity place.2.collation

section Naming

variable {sides : List Side} {side : Side} {given name : String}

/-- The tables of a question behind the first are separate, too. -/
theorem Separate.tail (separate : Separate (side :: sides)) : Separate sides :=
  ⟨(List.pairwise_cons.1 separate.names).2, fun other mem =>
    separate.sound other (List.mem_cons_of_mem side mem)⟩

/-- A table shows its column of a name at its place. -/
theorem matches_side (separate : Separate (side :: sides)) (first : Nat) (qualified : Bool)
    (name : String) : (side.table.area side.name first).matches qualified name =
      ((side.table.place? name).map fun place => slotAt (first + place.1, place.2)).toList := by
  rw [matches_area (separate.sound side List.mem_cons_self).columns.apart, Table.place?, Option.map_bind]
  simp only [Function.comp_def, Option.map_map]
  rfl

/-- None of the tables goes by a name that is none of theirs. -/
theorem filter_areasFrom (other : ∀ side ∈ sides, sameName side.name given = false) (first : Nat) :
    (areasFrom first sides).filter (fun area => sameName area.name given) = [] := by
  induction sides generalizing first with
  | nil => rfl
  | cons side sides ih =>
    obtain ⟨own, others⟩ := List.forall_mem_cons.1 other
    have named : sameName (side.table.area side.name first).name given = false := own
    rw [areasFrom, List.filter_cons_of_neg (by simp [named]), ih others]

/-- Of a table that goes by a name there is one column of a name at most. -/
theorem matches_located (separate : Separate sides) (first : Nat) (given name : String) :
    ((areasFrom first sides).filter fun area => sameName area.name given).flatMap
        (fun area => area.matches true name) =
      ((locate? given name first sides).map slotAt).toList := by
  induction sides generalizing first with
  | nil => rfl
  | cons side sides ih =>
    rw [areasFrom, locate?]
    cases own : sameName side.name given with
    | true =>
      have others : ∀ other ∈ sides, sameName other.name given = false := fun other mem => by
        rw [← sameName_congr_right own, sameName_comm]
        exact (List.pairwise_cons.1 separate.names).1 other mem
      have named : sameName (side.table.area side.name first).name given = true := own
      rw [List.filter_cons, if_pos named, filter_areasFrom others, List.flatMap_singleton,
        matches_side separate, if_pos rfl, Option.map_map]
      rfl
    | false =>
      have named : sameName (side.table.area side.name first).name given = false := own
      rw [List.filter_cons_of_neg (by simp [named]), ih separate.tail, if_neg Bool.false_ne_true]

variable {names : Names}

/-- A column behind the name of its table stands for its slot. -/
theorem column_located (separate : Separate sides) (areas : names.areas = areasFrom 0 sides)
    {place : Nat × Column} (located : locate? given name 0 sides = some place) (quoted : Bool)
    (start : Nat) : names.column (some given) name quoted start = .ok (slotAt place) := by
  have only := matches_located separate 0 given name
  rw [located] at only
  have only : (names.areas.filter fun area => sameName area.name given).flatMap
      (fun area => area.matches true name) = [slotAt place] := by
    rw [areas]
    exact only
  unfold Names.column
  simp only [Option.isSome_some, only]

/-- Tables have no column of a name exactly if none of them has one. -/
theorem flatMap_matches_eq_nil_iff (separate : Separate sides) (first : Nat) :
    (areasFrom first sides).flatMap (fun area => area.matches false name) = [] ↔
      ∀ side ∈ sides, side.table.columnIndex? name = none := by
  induction sides generalizing first with
  | nil => simp [areasFrom]
  | cons side sides ih =>
    rw [areasFrom, List.flatMap_cons, List.append_eq_nil_iff, ih separate.tail,
      List.forall_mem_cons, matches_side separate]
    refine and_congr_left fun _ => ?_
    cases found : side.table.columnIndex? name with
    | none => simp [Table.place?, found]
    | some i =>
      obtain ⟨c, here⟩ := getElem?_of_columnIndex? found
      simp [Table.place?, found, here]

/-- A column of the first table alone stands for its slot by its bare name. -/
theorem column_bare (separate : Separate (side :: sides))
    (areas : names.areas = areasFrom 0 (side :: sides)) {place : Nat × Column}
    (found : side.table.place? name = some place)
    (alone : ∀ other ∈ sides, other.table.columnIndex? name = none) (quoted : Bool) (start : Nat) :
    names.column none name quoted start = .ok (slotAt place) := by
  have rest := (flatMap_matches_eq_nil_iff separate.tail (0 + side.table.span)).2 alone
  have only : names.areas.flatMap (fun area => area.matches false name) = [slotAt place] := by
    rw [areas, areasFrom, List.flatMap_cons, rest, List.append_nil, matches_side separate, found]
    simp
  unfold Names.column
  simp only [List.filter_true, Option.isSome_none, only]

/-- A column of the first table and of another means nothing by its bare name. -/
theorem column_ambiguous (separate : Separate (side :: sides))
    (areas : names.areas = areasFrom 0 (side :: sides)) {place : Nat × Column}
    (found : side.table.place? name = some place) {other : Side} (among : other ∈ sides)
    (shared : other.table.columnIndex? name ≠ none) (quoted : Bool) (start : Nat) :
    names.column none name quoted start = .error (names.fault (.ambiguousColumn name) start) := by
  obtain ⟨e, es, rest⟩ : ∃ e es, (areasFrom (0 + side.table.span) sides).flatMap
      (fun area => area.matches false name) = e :: es := by
    refine List.exists_cons_of_ne_nil fun none => shared ?_
    exact (flatMap_matches_eq_nil_iff separate.tail _).1 none other among
  have several : names.areas.flatMap (fun area => area.matches false name) =
      slotAt (0 + place.1, place.2) :: e :: es := by
    rw [areas, areasFrom, List.flatMap_cons, rest, matches_side separate, found]
    rfl
  unfold Names.column
  simp only [List.filter_true, Option.isSome_none, several]

/-- A table has as many columns as it needs to have one at a place. -/
theorem of_place? {t : Table} {place : Nat × Column} (found : t.place? name = some place) :
    t.columns[place.1]? = some place.2 := by
  obtain ⟨i, -, found⟩ := Option.bind_eq_some_iff.1 found
  obtain ⟨c, here, rfl⟩ := Option.map_eq_some_iff.1 found
  exact here

/-- Columns are located behind the first slot. -/
theorem le_of_locate? {first : Nat} {place : Nat × Column}
    (located : locate? given name first sides = some place) : first ≤ place.1 := by
  induction sides generalizing first with
  | nil => cases located
  | cons side sides ih =>
    rw [locate?] at located
    split at located
    · obtain ⟨own, -, rfl⟩ := Option.map_eq_some_iff.1 located
      exact Nat.le_add_right first own.1
    · have behind := ih located
      rw [Table.span] at behind
      omega

/-- The slot of a column that is located belongs to the column. -/
theorem columnOfSlot_located (separate : Separate sides) {first : Nat} {place : Nat × Column}
    (located : locate? given name first sides = some place) :
    columnOfSlot (areasFrom first sides) place.1 = some (place.2.name, some place.2.declared) := by
  induction sides generalizing first with
  | nil => cases located
  | cons side sides ih =>
    rw [locate?] at located
    rw [areasFrom, columnOfSlot, List.findSome?_cons]
    split at located
    · obtain ⟨own, found, rfl⟩ := Option.map_eq_some_iff.1 located
      have here := of_place? found
      obtain ⟨inside, same⟩ := List.getElem?_eq_some_iff.1 here
      simp [Table.area, inside, same]
    · have behind := le_of_locate? located
      rw [Table.span] at behind
      have beyond : ¬ (first ≤ place.1 ∧ place.1 < first + side.table.columns.length) := by omega
      have noId : (side.table.area side.name first).idSlot ≠ some place.1 := by
        rw [Table.area]
        cases shown : side.table.idColumn with
        | none =>
          intro same
          have same := Option.some.inj same
          dsimp only at same
          omega
        | some i =>
          have within := (separate.sound side List.mem_cons_self).within i shown
          intro same
          have same := Option.some.inj same
          dsimp only at same
          omega
      have none : ¬ ((side.table.area side.name first).first ≤ place.1 ∧
          place.1 < (side.table.area side.name first).first +
            (side.table.area side.name first).columns.length) := by
        simpa [Table.area] using beyond
      rw [if_neg none, if_neg noId]
      exact ih separate.tail located

end Naming

section Cells

variable {sides : List Side} {parts : List (Option Row)} {given name : String}

/-- The cells of a row of a table in a question; they are nothing where no row stands. -/
def Table.cellsOf (t : Table) : Option Row → List Cell
  | some row => row.slots
  | none => List.replicate t.span .null

/-- The cells of rows of several tables side by side. -/
def cellsOf (sides : List Side) (parts : List (Option Row)) : List Cell :=
  (List.zipWith (fun side part => side.table.cellsOf part) sides parts).flatten

/-- What rows of several tables have in the column of a name, of the table that goes by another name. -/
def cellAt (given name : String) : List Side → List (Option Row) → Cell
  | side :: sides, part :: parts =>
    if sameName side.name given then
      ((side.table.columnIndex? name).bind fun i => part.bind fun row => row.cells[i]?).getD .null
    else cellAt given name sides parts
  | _, _ => .null

/-- Some rows are of several tables, or missing. -/
def Beside : List Side → List (Option Row) → Prop :=
  List.Forall₂ fun side part => ∀ row ∈ part, row ∈ side.table.rows

/-- The cells of a row of a sound table have the span of the table. -/
theorem length_cellsOf {t : Table} (sound : t.Sound) {part : Option Row}
    (among : ∀ row ∈ part, row ∈ t.rows) : (t.cellsOf part).length = t.span := by
  cases part with
  | none => simp [Table.cellsOf]
  | some row => simp [Table.cellsOf, Row.slots, Table.span, (sound.rows row (among row rfl)).width]

/-- The slot of a column that is located holds what the rows have there. -/
theorem getD_located (separate : Separate sides) (beside : Beside sides parts) (before : List Cell)
    {place : Nat × Column} (located : locate? given name before.length sides = some place) :
    ((before ++ cellsOf sides parts)[place.1]?).getD .null = cellAt given name sides parts := by
  induction beside generalizing before with
  | nil => cases located
  | @cons side part sides parts among beside ih =>
    have sound := separate.sound side List.mem_cons_self
    have length := length_cellsOf sound among
    have cells : cellsOf (side :: sides) (part :: parts) =
        side.table.cellsOf part ++ cellsOf sides parts := rfl
    rw [locate?] at located
    rw [cellAt, cells]
    split at located
    · next own =>
      rw [if_pos own]
      obtain ⟨own, found, rfl⟩ := Option.map_eq_some_iff.1 located
      have here := of_place? found
      have inside := (List.getElem?_eq_some_iff.1 here).1
      obtain ⟨i, index, found⟩ := Option.bind_eq_some_iff.1 found
      obtain ⟨c, -, rfl⟩ := Option.map_eq_some_iff.1 found
      rw [List.getElem?_append_right (Nat.le_add_right _ _), Nat.add_sub_cancel_left,
        List.getElem?_append_left (by rw [length, Table.span]; omega), index, Option.bind_some]
      cases part with
      | none => simp [Table.cellsOf, Table.span, Nat.lt_succ_of_lt inside]
      | some row =>
        have width := (sound.rows row (among row rfl)).width
        rw [Table.cellsOf, Row.slots, List.getElem?_append_left (by omega), Option.bind_some]
    · next other =>
      rw [if_neg other]
      have rest := ih separate.tail (before ++ side.table.cellsOf part)
        (by rwa [List.length_append, length])
      rwa [List.append_assoc] at rest

/-- The slots of columns that are located hold what the rows have there. -/
theorem map_located (separate : Separate sides) (beside : Beside sides parts)
    {pairs : List (String × String)} {places : List (Nat × Column)}
    (located : List.Forall₂ (fun pair place => locate? pair.1 pair.2 0 sides = some place) pairs
      places) :
    (places.map fun place => ((cellsOf sides parts)[place.1]?).getD .null) =
      pairs.map fun pair => cellAt pair.1 pair.2 sides parts := by
  induction located with
  | nil => rfl
  | cons here _ ih =>
    have first := getD_located separate beside [] here
    rw [List.nil_append] at first
    rw [List.map_cons, List.map_cons, first, ih]

end Cells

end Registrar.Sql
