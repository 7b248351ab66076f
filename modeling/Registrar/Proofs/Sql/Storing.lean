import Registrar.Sql.Change

/-!
# Stored cells

What a column keeps, it keeps: storing a cell a second time under the same affinity changes nothing,
so that a row whose cells have been stored is left alone when it is stored again with the row it
belongs to.  For columns of reals this rests on zero being rounded to one double only.
-/

namespace Registrar.Number.Double

/-- A whole number other than zero is no double that is zero. -/
theorem isZero_ofInt {n : Int} (other : n ≠ 0) : (ofInt n).isZero = false := by
  have num : n.natAbs ≠ 0 := Int.natAbs_ne_zero.2 other
  have one : Nat.log2 1 = 0 := by decide
  have reaches : 2 ^ Nat.log2 n.natAbs ≤ n.natAbs := Nat.log2_self_le num
  -- the significand is scaled by a power of two of at most 52 below the leading digit
  have scale : max (-1074 : Int) ((Nat.log2 n.natAbs : Int) - 52) = (Nat.log2 n.natAbs : Int) - 52 := by
    omega
  have leading : ¬ (scaled n.natAbs 1 (Nat.log2 n.natAbs : Int)).1 <
      (scaled n.natAbs 1 (Nat.log2 n.natAbs : Int)).2 := by
    have nonneg : (0 : Int) ≤ (Nat.log2 n.natAbs : Int) := Int.natCast_nonneg _
    rw [scaled, if_pos nonneg, Int.toNat_natCast, Nat.one_mul]
    exact Nat.not_lt.2 reaches
  have whole : (Nat.log2 1 : Int) = 0 := by rw [one]; rfl
  simp only [ofInt, ofRatio, if_neg num, whole, Int.sub_zero, if_neg leading, scale]
  generalize roundHalfEven _ _ = m
  have exponent : 1022 ≤ ((Nat.log2 n.natAbs : Int) - 52 + 1074).toNat := by omega
  generalize ((Nat.log2 n.natAbs : Int) - 52 + 1074).toNat = e at exponent
  split
  · cases (decide (n < 0)) <;> decide
  · next bounded =>
    have unit : Nat.pow 2 52 = 4503599627370496 := by decide
    rw [unit] at bounded ⊢
    have field : (ofFields (decide (n < 0)) (e * 4503599627370496 + m)).exponentField ≠ 0 := by
      rw [exponentField, ofFields, unit]
      have sign : Nat.pow 2 63 = 9223372036854775808 := by decide
      rw [sign]
      cases decide (n < 0) with
      | true =>
        rw [if_pos rfl, UInt64.toNat_ofNat']
        omega
      | false =>
        rw [if_neg Bool.false_ne_true, UInt64.toNat_ofNat']
        omega
    rw [isZero, beq_false_of_ne field, Bool.false_and]

/-- A whole number that is rounded to a zero is rounded to the one without a sign. -/
theorem ofInt_of_isZero {n : Int} (isZero : (ofInt n).isZero = true) : ofInt n = zero false := by
  by_cases zero : n = 0
  · rw [zero]
    rfl
  · rw [isZero_ofInt zero] at isZero
    cases isZero

end Registrar.Number.Double

namespace Registrar.Sql

open Registrar.Number

namespace Cell

/-- A cell that has settled does not settle further. -/
theorem settle_settle (cell : Cell) : settle (settle cell) = settle cell := by
  cases cell with
  | real x =>
    cases whole : wholeOf? x with
    | none => simp only [settle, whole]
    | some n => simp only [settle, whole]
  | _ => rfl

/-- A text stands for a number, if it stands for anything. -/
theorem number?_cases {cs : List Char} {cell : Cell} (stands : number? cs = some cell) :
    (∃ n, cell = .integer n) ∨ ∃ x, cell = .real x := by
  unfold number? at stands
  dsimp only at stands
  split at stands
  · cases stands
  · split at stands
    · exact .inr ⟨_, (Option.some.inj stands).symm⟩
    · split at stands
      · exact .inl ⟨_, (Option.some.inj stands).symm⟩
      · exact .inr ⟨_, (Option.some.inj stands).symm⟩

/-- A real that a column of reals keeps is kept again. -/
theorem store_real_of_kept {x : Double} (kept : x.isZero = true → x = Double.zero false) :
    store .real (.real x) = .real x := by
  cases isZero : x.isZero with
  | false => simp [store, isZero]
  | true =>
    rw [kept isZero]
    rfl

/-- A real is kept as one without a sign if it is zero. -/
theorem store_real_real (x : Double) :
    store .real (.real (if x.isZero then Double.zero false else x)) =
      .real (if x.isZero then Double.zero false else x) := by
  refine store_real_of_kept fun isZero => ?_
  split
  · rfl
  · next other =>
    rw [if_neg other] at isZero
    exact absurd isZero other

/-- Columns of numbers settle what is no text. -/
theorem store_of_not_text {affinity : Affinity} (number : affinity = .numeric ∨ affinity = .integer)
    {cell : Cell} (other : ∀ s, cell ≠ .text s) : store affinity cell = settle cell := by
  cases cell with
  | text s => exact absurd rfl (other s)
  | _ => rcases number with rfl | rfl <;> rfl

/-- What has settled is no text unless it was one. -/
theorem settle_ne_text {cell : Cell} (other : ∀ s, cell ≠ .text s) (s : String) :
    settle cell ≠ .text s := by
  cases cell with
  | real x =>
    cases whole : wholeOf? x with
    | none =>
      rw [settle, whole]
      exact other s
    | some n =>
      rw [settle, whole]
      exact nofun
  | _ => exact other s

/-- Text in a column of numbers is stored as the number that it stands for, if it stands for one. -/
theorem store_text_of_number {affinity : Affinity}
    (number : affinity = .numeric ∨ affinity = .integer) (s : String) :
    store affinity (.text s) = match number? s.toList with
      | some n => settle n
      | none => .text s := by
  rcases number with rfl | rfl <;> rfl

/-- What a column of numbers keeps, it keeps. -/
theorem store_store_number {affinity : Affinity}
    (number : affinity = .numeric ∨ affinity = .integer) (cell : Cell) :
    store affinity (store affinity cell) = store affinity cell := by
  have again {cell : Cell} (other : ∀ s, cell ≠ .text s) :
      store affinity (settle cell) = settle cell := by
    rw [store_of_not_text number (settle_ne_text other), settle_settle]
  by_cases isText : ∃ s, cell = .text s
  · obtain ⟨s, rfl⟩ := isText
    have reads := store_text_of_number number s
    cases stands : number? s.toList with
    | none => simp only [reads, stands]
    | some n =>
      simp only [reads, stands]
      refine again fun other => ?_
      rcases number?_cases stands with ⟨m, rfl⟩ | ⟨x, rfl⟩ <;> simp
  · have other : ∀ s, cell ≠ .text s := fun s same => isText ⟨s, same⟩
    rw [store_of_not_text number other]
    exact again other

/-- What a column of reals keeps, it keeps. -/
theorem store_store_real (cell : Cell) : store .real (store .real cell) = store .real cell := by
  cases cell with
  | integer n => exact store_real_of_kept Double.ofInt_of_isZero
  | real x => exact store_real_real x
  | text s =>
    cases stands : number? s.toList with
    | none => simp only [store, stands]
    | some cell =>
      rcases number?_cases stands with ⟨m, rfl⟩ | ⟨x, rfl⟩
      · have kept : store .real (.text s) = .real (Double.ofInt m.toInt) := by
          simp only [store, stands]
        rw [kept]
        exact store_real_of_kept Double.ofInt_of_isZero
      · have kept : store .real (.text s) =
            .real (if x.isZero then Double.zero false else x) := by
          simp only [store, stands]
        rw [kept]
        exact store_real_real x
  | _ => rfl

/-- What a column keeps, it keeps. -/
theorem store_store (affinity : Affinity) (cell : Cell) :
    store affinity (store affinity cell) = store affinity cell := by
  cases affinity with
  | blob => rfl
  | text =>
    cases written : cell.numberText? with
    | none => simp only [store, written]
    | some s =>
      have kept : store .text cell = .text s := by simp only [store, written]
      rw [kept]
      rfl
  | numeric => exact store_store_number (.inl rfl) cell
  | integer => exact store_store_number (.inr rfl) cell
  | real => exact store_store_real cell

end Cell

namespace Table

variable {t : Table}

/-- The cell of a column as the table stores it. -/
theorem getElem?_storedCells (cells : List Cell) (i : Nat) :
    (t.storedCells cells)[i]? =
      (t.columns[i]?).bind fun c => (cells[i]?).map fun cell => Cell.store c.affinity cell := by
  rw [storedCells, List.getElem?_zipWith]
  cases t.columns[i]? <;> cases cells[i]? <;> rfl

/-- The cell of a column of a row that shows its id. -/
theorem getElem?_withId (id : Int64) (cells : List Cell) (i : Nat) :
    (t.withId id cells)[i]? =
      if t.idColumn = some i then (cells[i]?).map fun _ => .integer id else cells[i]? := by
  unfold withId
  split
  · next j shows =>
    rw [shows, List.getElem?_set]
    by_cases same : j = i
    · subst same
      rw [if_pos rfl, if_pos rfl]
      by_cases inside : j < cells.length
      · rw [if_pos inside, List.getElem?_eq_getElem inside]
        rfl
      · rw [if_neg inside, List.getElem?_eq_none (Nat.le_of_not_lt inside)]
        rfl
    · have other : some j ≠ some i := fun equal => same (Option.some.inj equal)
      rw [if_neg same, if_neg other]
  · next none =>
    have other : t.idColumn ≠ some i := by
      rw [none]
      exact nofun
    rw [if_neg other]

/-- A row that is stored with its id is stored already. -/
theorem withId_storedCells_again (id : Int64) (cells : List Cell) :
    t.withId id (t.storedCells (t.withId id (t.storedCells cells))) =
      t.withId id (t.storedCells cells) := by
  refine List.ext_getElem? fun i => ?_
  simp only [getElem?_withId, getElem?_storedCells]
  by_cases shows : t.idColumn = some i
  · simp only [if_pos shows]
    cases t.columns[i]? <;> cases cells[i]? <;> rfl
  · simp only [if_neg shows]
    cases t.columns[i]? <;> cases cells[i]? <;> simp [Cell.store_store]

end Table

end Registrar.Sql
