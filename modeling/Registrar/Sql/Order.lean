import Registrar.Sql.Cell

/-!
# Sorting

Rows are sorted by keys.  Sorting is stable: rows with equal keys stay in the order in which they
came.
-/

namespace Registrar.Sql

/-- One cell to sort by. -/
structure SortCell where
  cell : Cell
  collation : Collation
  descending : Bool

/-- The order of two lists of cells to sort by; the first difference decides. -/
def compareKeys : List SortCell → List SortCell → Ordering
  | a :: as, b :: bs =>
    let o := Cell.order a.collation a.cell b.cell
    (if a.descending then o.swap else o).then (compareKeys as bs)
  | _, _ => .eq

/-- Puts an item in front of the first one that does not come before it. -/
def insertBy {α : Type} (key : α → List SortCell) (a : α) : List α → List α
  | [] => [a]
  | b :: bs =>
    if compareKeys (key b) (key a) == .lt then b :: insertBy key a bs else a :: b :: bs

/-- Sorts items by their keys. -/
def sortBy {α : Type} (key : α → List SortCell) (items : List α) : List α :=
  items.foldr (insertBy key) []

/-- Inserting adds the item and keeps all others. -/
theorem insertBy_perm {α : Type} (key : α → List SortCell) (a : α) (items : List α) :
    (insertBy key a items).Perm (a :: items) := by
  induction items with
  | nil => exact List.Perm.refl _
  | cons b bs ih =>
    simp only [insertBy]
    split
    · exact (ih.cons b).trans (List.Perm.swap a b bs)
    · exact List.Perm.refl _

/-- Sorting neither drops nor adds items. -/
theorem sortBy_perm {α : Type} (key : α → List SortCell) (items : List α) :
    (sortBy key items).Perm items := by
  induction items with
  | nil => exact List.Perm.refl _
  | cons a as ih => exact (insertBy_perm key a _).trans (ih.cons a)

/-- Cuts a list into runs of neighbours with equal keys. -/
def runsBy {α : Type} (key : α → List SortCell) : List α → List (List α)
  | [] => []
  | a :: as =>
    match runsBy key as with
    | (b :: bs) :: runs =>
      if compareKeys (key a) (key b) == .eq then (a :: b :: bs) :: runs
      else [a] :: (b :: bs) :: runs
    | runs => [a] :: runs

/-- The runs of a list make up the list. -/
theorem flatten_runsBy {α : Type} (key : α → List SortCell) (items : List α) :
    (runsBy key items).flatten = items := by
  induction items with
  | nil => rfl
  | cons a as ih =>
    simp only [runsBy]
    split
    · rename_i b bs runs shape
      rw [shape] at ih
      split <;> simp_all
    · simp [ih]

end Registrar.Sql
