import Mathlib.Data.List.Nodup
import Registrar.Proofs.Sql.Comparison
import Registrar.Proofs.Sql.Phrases
import Registrar.Proofs.Sql.Soundness

/-!
# New values of a row

What a row is after a change that gives some names a value each.  A name is one of a column or of the
id; its value is there as the column stores it, and the rest of the row is as before.  No two of the
names may mean the same, else one value would take the place of another.
-/

namespace Registrar.Sql

open Registrar.Text

variable {t : Table} {env : Env} {assignments : List (Option Nat × Expr)}
  {given : List (String × Cell)} {old new : Row}

/-- A row has a cell where a name says, as it is stored there. -/
def Table.Holds (t : Table) (row : Row) (name : String) (cell : Cell) : Prop :=
  match Database.targetColumn t name with
  | some (some i) =>
    ∃ c, t.columns[i]? = some c ∧ row.cells[i]? = some (Cell.store c.affinity cell)
  | some none => Cell.store .integer cell = .integer row.id
  | none => False

/-- What some names mean among the columns of a table. -/
def Table.targets (t : Table) (names : List String) : List (Option (Option Nat)) :=
  names.map (Database.targetColumn t)

/-- A row is another one with new values under some names. -/
structure Table.Revises (t : Table) (given : List (String × Cell)) (old new : Row) : Prop where
  fits : new.Fits t
  holds : ∀ pair ∈ given, t.Holds new pair.1 pair.2
  others : ∀ i, some (some i) ∉ t.targets (given.map Prod.fst) → t.idColumn ≠ some i →
    new.cells[i]? = old.cells[i]?
  sameId : some none ∉ t.targets (given.map Prod.fst) → new.id = old.id

/-- Marks that are assigned to columns have the cells that are bound to them. -/
theorem of_assignedMarks {k : Nat} {assigned : List (Option Nat × Cell)}
    (resolved : Database.resolveAssignments t (assignedMarks k (given.map Prod.fst)) =
      .ok assignments)
    (binds : env.Binds k (given.map Prod.snd))
    (done : (assignments.mapM fun assignment => do
      let cell ← assignment.2.eval env
      pure (assignment.1, cell)) = Except.ok assigned) :
    assigned.map (fun entry => (some entry.1, entry.2)) =
      given.map fun pair => (Database.targetColumn t pair.1, pair.2) := by
  induction given generalizing k assignments assigned with
  | nil =>
    obtain rfl := Except.ok.inj resolved
    obtain rfl := Except.ok.inj done
    rfl
  | cons pair given ih =>
    have parts : assignedMarks k ((pair :: given).map Prod.fst) =
        (pair.1, .parameter (k + 1)) :: assignedMarks (k + 1) (given.map Prod.fst) := rfl
    rw [parts, Database.resolveAssignments] at resolved
    obtain ⟨e, isMark, resolved⟩ := bind_eq_ok resolved
    obtain rfl := Except.ok.inj isMark
    have first : env.parameters[k]? = some pair.2 := binds 0 pair.2 rfl
    have later : env.Binds (k + 1) (given.map Prod.snd) := fun i cell at' => by
      have place : k + 1 + i = k + (i + 1) := by omega
      rw [place]
      exact binds (i + 1) cell at'
    split at resolved
    · cases resolved
    · next target known =>
      obtain ⟨others, rest, resolved⟩ := bind_eq_ok resolved
      obtain rfl := Except.ok.inj resolved
      rw [List.mapM_cons] at done
      obtain ⟨entry, value, done⟩ := bind_eq_ok done
      obtain ⟨entries, more, done⟩ := bind_eq_ok done
      obtain rfl := Except.ok.inj done
      have value : Except.ok (target, ((env.parameters[k]?).getD Cell.null)) = Except.ok entry := value
      obtain rfl := Except.ok.inj value
      rw [List.map_cons, List.map_cons, ih rest later more, known, first, Option.getD_some]

/-- Among entries of different keys, the last of a key is the only one. -/
theorem find?_reverse_of_mem {α β : Type} [BEq α] [LawfulBEq α] {entries : List (α × β)}
    (distinct : (entries.map Prod.fst).Nodup) {entry : α × β} (mem : entry ∈ entries) :
    entries.reverse.find? (fun other => other.1 == entry.1) = some entry := by
  refine find?_of_distinct (f := Prod.fst) ?_ (List.mem_reverse.2 mem)
  rw [List.map_reverse]
  exact List.nodup_reverse.2 distinct

/-- What is not among the keys of entries is not found among them. -/
theorem find?_reverse_of_not_mem {α β : Type} [BEq α] [LawfulBEq α] {entries : List (α × β)} {key : α}
    (absent : key ∉ entries.map Prod.fst) :
    entries.reverse.find? (fun other => other.1 == key) = none := by
  refine List.find?_eq_none.2 fun entry mem same => absent ?_
  exact List.mem_map.2 ⟨entry, List.mem_reverse.1 mem, by simpa using same⟩

/-- An id that is given is stored as a whole number. -/
theorem of_givenId {cell : Cell} {id : Int64} (done : givenId cell = .ok id) :
    Cell.store .integer cell = .integer id := by
  unfold givenId at done
  split at done
  · next n stored => rw [stored, Except.ok.inj done]
  · cases done

/-- Cells with those that are assigned to columns in their places. -/
def withAssigned (assigned : List (Option Nat × Cell)) (cells : List Cell) : List Cell :=
  cells.zipIdx.map fun entry =>
    match assigned.reverse.find? fun a => a.1 == some entry.2 with
    | some a => a.2
    | none => entry.1

/-- In the place of a column is what is assigned to it, or else what was there. -/
theorem getElem?_withAssigned (assigned : List (Option Nat × Cell)) (cells : List Cell) (i : Nat) :
    (withAssigned assigned cells)[i]? = (cells[i]?).map fun cell =>
      match assigned.reverse.find? fun a => a.1 == some i with
      | some a => a.2
      | none => cell := by
  rw [withAssigned, List.getElem?_map, List.getElem?_zipIdx, Option.map_map, Nat.zero_add]
  rfl

/-- What a row is made of: cells that are assigned, and the id if none is. -/
theorem revisedCells_eq {assigned : List (Option Nat × Cell)}
    (collected : (assignments.mapM fun assignment => do
      let cell ← assignment.2.eval (env.ofRow old.slots)
      pure (assignment.1, cell)) = Except.ok assigned)
    (done : revisedCells t env assignments old = .ok (new.id, new.cells)) :
    new.cells = t.withId new.id (t.storedCells (withAssigned assigned old.cells)) ∧
      (match assigned.reverse.find? fun entry => entry.1 == none with
        | some entry => givenId entry.2
        | none => .ok old.id) = .ok new.id := by
  obtain ⟨again, same, done⟩ := bind_eq_ok done
  obtain rfl := Except.ok.inj (collected.symm.trans same)
  dsimp only at done
  split at done
  · next cell found =>
    obtain ⟨id, isId, done⟩ := bind_eq_ok done
    obtain ⟨rfl, cells⟩ := Prod.mk.inj (Except.ok.inj done)
    rw [found]
    exact ⟨cells.symm, isId⟩
  · next found =>
    obtain ⟨sameId, cells⟩ := Prod.mk.inj (Except.ok.inj done)
    rw [found, ← sameId]
    exact ⟨cells.symm, rfl⟩

/-- What is a column but not that of the id. -/
theorem of_targetColumn {name : String} {i : Nat}
    (known : Database.targetColumn t name = some (some i)) :
    t.idColumn ≠ some i ∧ ∃ c, t.columns[i]? = some c := by
  unfold Database.targetColumn at known
  split at known
  · next j found =>
    split at known
    · cases known
    · next other =>
      obtain rfl : j = i := Option.some.inj (Option.some.inj known)
      obtain ⟨inside, -⟩ := List.findIdx?_eq_some_iff_getElem.1 found
      exact ⟨other, _, List.getElem?_eq_getElem inside⟩
  · split at known <;> cases known

section Targets

variable {assigned : List (Option Nat × Cell)}
  (targets : assigned.map (fun entry => (some entry.1, entry.2)) =
    given.map fun pair => (Database.targetColumn t pair.1, pair.2))

include targets

/-- What cells are assigned to are what the names mean that are given these cells. -/
theorem keys_of_targets : (assigned.map Prod.fst).map some = t.targets (given.map Prod.fst) := by
  have firsts := congrArg (List.map Prod.fst) targets
  simpa [Table.targets, List.map_map, Function.comp_def] using firsts

/-- Cells are assigned to different columns if the names mean different ones. -/
theorem distinct_of_targets (apart : (t.targets (given.map Prod.fst)).Nodup) :
    (assigned.map Prod.fst).Nodup := by
  rw [← keys_of_targets targets] at apart
  exact apart.of_map

/-- What a name is given is assigned to what the name means. -/
theorem mem_of_target {pair : String × Cell} (mem : pair ∈ given) :
    ∃ target, Database.targetColumn t pair.1 = some target ∧ (target, pair.2) ∈ assigned := by
  have here : (Database.targetColumn t pair.1, pair.2) ∈
      assigned.map fun entry => (some entry.1, entry.2) := by
    rw [targets]
    exact List.mem_map.2 ⟨pair, mem, rfl⟩
  obtain ⟨entry, among, same⟩ := List.mem_map.1 here
  obtain ⟨known, value⟩ := Prod.mk.inj same
  exact ⟨entry.1, known.symm, by rw [← value]; exact among⟩

/-- Nothing is assigned to what no name means. -/
theorem not_mem_of_target {target : Option Nat}
    (absent : some target ∉ t.targets (given.map Prod.fst)) :
    target ∉ assigned.map Prod.fst := by
  intro mem
  rw [← keys_of_targets targets] at absent
  exact absent (List.mem_map_of_mem mem)

end Targets

/-- The new cells of a row are the old ones and those that are given, as their columns store them, with
the id of the row. -/
theorem revises_of_assigned {assigned : List (Option Nat × Cell)} (fits : old.Fits t)
    (within : ∀ i, t.idColumn = some i → i < t.columns.length)
    (collected : (assignments.mapM fun assignment => do
      let cell ← assignment.2.eval (env.ofRow old.slots)
      pure (assignment.1, cell)) = Except.ok assigned)
    (targets : assigned.map (fun entry => (some entry.1, entry.2)) =
      given.map fun pair => (Database.targetColumn t pair.1, pair.2))
    (apart : (t.targets (given.map Prod.fst)).Nodup)
    (done : revisedCells t env assignments old = .ok (new.id, new.cells)) :
    t.Revises given old new := by
  have unnamed : ∀ target, some target ∉ t.targets (given.map Prod.fst) →
      assigned.reverse.find? (fun entry => entry.1 == target) = none := fun target absent =>
    find?_reverse_of_not_mem (not_mem_of_target targets absent)
  obtain ⟨cells, isId⟩ := revisedCells_eq collected done
  have at' : ∀ i, t.idColumn ≠ some i → new.cells[i]? =
      (t.columns[i]?).bind fun c => ((withAssigned assigned old.cells)[i]?).map (Cell.store c.affinity) := by
    intro i other
    rw [cells, Table.getElem?_withId, if_neg other, Table.getElem?_storedCells]
  refine ⟨?_, fun pair mem => ?_, fun i absent other => ?_, fun absent => ?_⟩
  · have width : (withAssigned assigned old.cells).length = t.columns.length := by
      rw [withAssigned, List.length_map, List.length_zipIdx, fits.width]
    have stored := fits_stored within new.id width
    rwa [← cells] at stored
  · obtain ⟨target, means, among⟩ := mem_of_target targets mem
    have found := find?_reverse_of_mem (distinct_of_targets targets apart) among
    rw [Table.Holds, means]
    cases target with
    | none =>
      dsimp only at found
      rw [found] at isId
      exact of_givenId isId
    | some i =>
      obtain ⟨other, c, column⟩ := of_targetColumn means
      have inside : i < old.cells.length := by
        rw [fits.width]
        exact (List.getElem?_eq_some_iff.1 column).1
      refine ⟨c, column, ?_⟩
      dsimp only at found
      rw [at' i other, column, getElem?_withAssigned, List.getElem?_eq_getElem inside, Option.map_some,
        found]
      rfl
  · have stored := congrArg (fun cells => cells[i]?) fits.stored
    rw [Table.getElem?_withId, if_neg other, Table.getElem?_storedCells] at stored
    refine Eq.trans ?_ stored
    rw [at' i other, getElem?_withAssigned, unnamed _ absent]
    cases t.columns[i]? <;> cases old.cells[i]? <;> rfl
  · rw [unnamed _ absent] at isId
    exact (Except.ok.inj isId).symm

/-- A row that is changed by marks that are assigned to columns is the old one with the cells that are
bound to the marks. -/
theorem revises_of_revisedCells {k : Nat} (fits : old.Fits t)
    (within : ∀ i, t.idColumn = some i → i < t.columns.length)
    (resolved : Database.resolveAssignments t (assignedMarks k (given.map Prod.fst)) =
      .ok assignments)
    (binds : env.Binds k (given.map Prod.snd)) (apart : (t.targets (given.map Prod.fst)).Nodup)
    (done : revisedCells t env assignments old = .ok (new.id, new.cells)) :
    t.Revises given old new := by
  obtain ⟨assigned, collected, -⟩ := bind_eq_ok done
  have bound : (env.ofRow old.slots).Binds k (given.map Prod.snd) := binds
  have targets := of_assignedMarks resolved bound collected
  exact revises_of_assigned fits within collected targets apart done

end Registrar.Sql
