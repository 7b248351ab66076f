/-!
# Entries

Names with values, in the order in which the names were first put.  Putting a name again replaces
its value and keeps its place, so every name occurs once.
-/

namespace Registrar

/-- Puts a value under a key: in the key's place when it has one, at the end when it has none. -/
def putPair {κ α : Type} [DecidableEq κ] (key : κ) (value : α) : List (κ × α) → List (κ × α)
  | [] => [(key, value)]
  | pair :: pairs =>
    if pair.1 = key then (key, value) :: pairs else pair :: putPair key value pairs

/-- Puts pairs one after another. -/
def putAll {κ α : Type} [DecidableEq κ] (pairs new : List (κ × α)) : List (κ × α) :=
  new.foldl (fun pairs pair => putPair pair.1 pair.2 pairs) pairs

/-- Putting keeps the keys that are there and adds a new one at the end. -/
theorem keys_putPair {κ α : Type} [DecidableEq κ] (key : κ) (value : α) (pairs : List (κ × α)) :
    (putPair key value pairs).map Prod.fst =
      if key ∈ pairs.map Prod.fst then pairs.map Prod.fst else pairs.map Prod.fst ++ [key] := by
  induction pairs with
  | nil => simp [putPair]
  | cons pair pairs ih =>
    by_cases same : pair.1 = key
    · simp [putPair, same]
    · have other : ¬ key = pair.1 := fun e => same e.symm
      by_cases later : key ∈ pairs.map Prod.fst <;> simp_all [putPair]

/-- Putting keeps the keys distinct. -/
theorem nodup_putPair {κ α : Type} [DecidableEq κ] (key : κ) (value : α) {pairs : List (κ × α)}
    (distinct : (pairs.map Prod.fst).Nodup) : ((putPair key value pairs).map Prod.fst).Nodup := by
  rw [keys_putPair]
  split
  · exact distinct
  · next fresh =>
    rw [List.nodup_append]
    refine ⟨distinct, by simp, ?_⟩
    intro a mem b isKey
    simp only [List.mem_singleton] at isKey
    subst isKey
    intro same
    exact fresh (same ▸ mem)

/-- What is told apart by its values is found by its value. -/
theorem find?_of_distinct {α β : Type} [BEq β] [LawfulBEq β] {f : α → β} {as : List α} {a : α}
    (distinct : (as.map f).Nodup) (mem : a ∈ as) : as.find? (fun b => f b == f a) = some a := by
  induction as with
  | nil => cases mem
  | cons first as ih =>
    obtain ⟨fresh, distinct⟩ := List.nodup_cons.1 distinct
    rcases List.mem_cons.1 mem with rfl | mem
    · rw [List.find?_cons, beq_self_eq_true]
    · have other : (f first == f a) = false :=
        beq_false_of_ne fun same => fresh (same ▸ List.mem_map_of_mem mem)
      rw [List.find?_cons, other]
      exact ih distinct mem

/-- Names with values, every name once. -/
structure Entries (α : Type) where
  pairs : List (String × α)
  distinct : (pairs.map Prod.fst).Nodup

namespace Entries

variable {α : Type}

/-- No names. -/
def empty : Entries α :=
  ⟨[], by simp⟩

/-- Puts a value under a name. -/
def put (entries : Entries α) (name : String) (value : α) : Entries α :=
  ⟨putPair name value entries.pairs, nodup_putPair name value entries.distinct⟩

/-- Puts pairs one after another. -/
def ofList (pairs : List (String × α)) : Entries α :=
  pairs.foldl (fun entries pair => entries.put pair.1 pair.2) empty

/-- The names, in order. -/
def names (entries : Entries α) : List String :=
  entries.pairs.map Prod.fst

/-- The values, in the order of their names. -/
def values (entries : Entries α) : List α :=
  entries.pairs.map Prod.snd

/-- The value of a name. -/
def get? (entries : Entries α) (name : String) : Option α :=
  (entries.pairs.find? fun pair => pair.1 == name).map Prod.snd

/-- Takes a name out, with its value. -/
def remove (entries : Entries α) (name : String) : Entries α :=
  ⟨entries.pairs.filter fun pair => pair.1 != name,
    (List.filter_sublist.map Prod.fst).nodup entries.distinct⟩

/-- Whether there are no names. -/
def isEmpty (entries : Entries α) : Bool :=
  entries.pairs.isEmpty

end Entries

end Registrar
