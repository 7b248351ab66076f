import Registrar.Text.Blank

/-!
# Whole numbers in text

A whole number is written as an optional sign and one or more ASCII digits.  Reading is exact: the
value is the mathematical value of the digits, and a value that does not fit into 64 bits is
refused, never wrapped.
-/

namespace Registrar.Number

open Registrar.Text

/-- The value of an ASCII digit. -/
def digitValue (c : Char) : Nat :=
  c.toNat - 48

/-- The value of a run of ASCII digits, most significant first. -/
def digitsValue (ds : List Char) : Nat :=
  ds.foldl (fun n c => 10 * n + digitValue c) 0

/-- Reads one or more ASCII digits. -/
def unsigned? (ds : List Char) : Option Nat :=
  if ds.isEmpty || !ds.all isDigit then none else some (digitsValue ds)

/-- Reads an optional sign followed by one or more ASCII digits. -/
def signed? : List Char → Option Int
  | '-' :: ds => (unsigned? ds).map fun n => -(n : Int)
  | '+' :: ds => (unsigned? ds).map fun n => (n : Int)
  | ds => (unsigned? ds).map fun n => (n : Int)

/-- The 64-bit number of a value, when it has one. -/
def int64? (n : Int) : Option Int64 :=
  if Int64.minValue.toInt ≤ n ∧ n ≤ Int64.maxValue.toInt then some (Int64.ofInt n) else none

/-- The 64-bit number of a value is the number that has this value. -/
theorem int64?_eq_some_iff {m : Int} {n : Int64} : int64? m = some n ↔ n.toInt = m := by
  have greatest : Int64.maxValue.toInt = 9223372036854775807 := rfl
  unfold int64?
  split
  · next within =>
    rw [Option.some_inj]
    constructor
    · rintro rfl
      exact Int64.toInt_ofInt_of_le within.1 (by omega)
    · rintro rfl
      exact Int64.ofInt_toInt n
  · next beyond =>
    refine iff_of_false nofun ?_
    rintro rfl
    exact beyond ⟨Int64.le_toInt n, Int64.toInt_le n⟩

/-- A value that is too small or too great has no 64-bit number. -/
theorem int64?_eq_none_iff {m : Int} :
    int64? m = none ↔ m < Int64.minValue.toInt ∨ Int64.maxValue.toInt < m := by
  rw [int64?, ite_eq_right_iff]
  constructor
  · intro beyond
    refine Decidable.byContradiction fun within => nomatch beyond ?_
    omega
  · intro beyond within
    omega

/-- Reads a whole number of at most 64 bits from a text without blanks. -/
def readInt64? (cs : List Char) : Option Int64 :=
  (signed? cs).bind int64?

/-- Reads a whole number of at most 64 bits, with blanks around it or without. -/
def integerText? (s : String) : Option Int64 :=
  readInt64? (trimChars s.toList)

/-- The decimal digits of a number. -/
def natDigits (n : Nat) : List Char :=
  Nat.toDigits 10 n

/-- The decimal text of a whole number, with a sign only when it is negative. -/
def intText (n : Int) : String :=
  String.ofList (if n < 0 then '-' :: natDigits n.natAbs else natDigits n.natAbs)

/-- Digits filled up with leading zeros to a width. -/
def zeroPadded (width n : Nat) : List Char :=
  let ds := natDigits n
  List.replicate (width - ds.length) '0' ++ ds

/-- The text of a natural number is its digits. -/
theorem toList_intText (n : Nat) : (intText n).toList = natDigits n := by
  have unsigned : ¬ (n : Int) < 0 := by omega
  rw [intText, if_neg unsigned, String.toList_ofList, Int.natAbs_natCast]

/-- Different numbers have different digits. -/
theorem natDigits_inj {m n : Nat} : natDigits m = natDigits n ↔ m = n := by
  refine ⟨fun same => ?_, fun same => by rw [same]⟩
  calc
    m = Nat.ofDigitChars 10 (natDigits m) 0 := (Nat.ofDigitChars_ten_toDigits).symm
    _ = Nat.ofDigitChars 10 (natDigits n) 0 := by rw [same]
    _ = n := Nat.ofDigitChars_ten_toDigits

/-- A smaller number has no more digits. -/
theorem length_natDigits_le {m n : Nat} (le : m ≤ n) :
    (natDigits m).length ≤ (natDigits n).length := by
  have positive : 0 < (natDigits n).length := Nat.length_toDigits_pos
  have below : n < 10 ^ (natDigits n).length :=
    (Nat.length_toDigits_le_iff (by decide) positive).1 (Nat.le_refl _)
  exact (Nat.length_toDigits_le_iff (by decide) positive).2 (Nat.lt_of_le_of_lt le below)

/-- The digits of a number are digits. -/
theorem isDigit_of_mem_natDigits {n : Nat} {c : Char} (mem : c ∈ natDigits n) :
    isDigit c = true := by
  have digit : c.isDigit = true := Nat.isDigit_of_mem_toDigits (by decide) (by decide) mem
  rw [Char.isDigit, Bool.and_eq_true, decide_eq_true_eq, decide_eq_true_eq] at digit
  rw [isDigit, Bool.and_eq_true, decide_eq_true_eq, decide_eq_true_eq]
  exact digit

end Registrar.Number
