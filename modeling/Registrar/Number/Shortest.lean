import Registrar.Number.Double

/-!
# Shortest decimals

The decimal text of a double has the fewest digits that still read back as that double, and of
those the nearest.  A double stands for the interval of numbers that round to it, its ends
included when its significand is even.  For one digit, two digits and so on, the two grid points
next to the value are tried; the first grid with a point in the interval gives the digits.
-/

namespace Registrar.Number

/-- A decimal `digits * 10 ^ exponent`. -/
structure Decimal where
  digits : Nat
  exponent : Int
deriving DecidableEq

namespace Decimal

/-- The interval of numbers that round to one double, its value between: all as multiples of
`1 / den`. -/
structure Interval where
  low : Nat
  value : Nat
  high : Nat
  den : Nat
  /-- The two ends round to the double as well. -/
  closed : Bool

/-- The interval of the double `m * 2 ^ e`; below a power of two the neighbours lie half as far
apart. -/
def interval (m : Nat) (e : Int) : Interval :=
  let unit := if 0 ≤ e then Nat.pow 2 e.toNat else 1
  let den := if 0 ≤ e then 4 else 4 * Nat.pow 2 (-e).toNat
  let below := if m = Nat.pow 2 52 ∧ -1074 < e then 1 else 2
  { low := (4 * m - below) * unit, value := 4 * m * unit, high := (4 * m + 2) * unit, den,
    closed := m % 2 = 0 }

/-- Counts up from `j` to the first power of ten that lifts `num / den` to one or more. -/
def liftFrom : Nat → Nat → Nat → Nat → Nat
  | 0, _, _, j => j
  | fuel + 1, num, den, j => if den ≤ num * Nat.pow 10 j then j else liftFrom fuel num den (j + 1)

/-- The exponent `k` with `10 ^ (k - 1) ≤ num / den < 10 ^ k`. -/
def magnitude (num den : Nat) : Int :=
  if den ≤ num then (natDigits (num / den)).length
  else
    let guess := (Nat.log2 den - Nat.log2 num) * 30102 / 100000 - 1
    1 - (liftFrom 400 num den guess : Int)

/-- `num / den` in units of `10 ^ g`, as a fraction. -/
def gridRatio (num den : Nat) (g : Int) : Nat × Nat :=
  if 0 ≤ g then (num, den * Nat.pow 10 g.toNat) else (num * Nat.pow 10 (-g).toNat, den)

/-- Whether the grid point `d * 10 ^ g` lies in an interval. -/
def Interval.holds (i : Interval) (d : Nat) (g : Int) : Bool :=
  let p := d * (if 0 ≤ g then Nat.pow 10 g.toNat else 1) * i.den
  let s := if 0 ≤ g then 1 else Nat.pow 10 (-g).toNat
  if i.closed then i.low * s ≤ p && p ≤ i.high * s else i.low * s < p && p < i.high * s

/-- The grid point in the interval nearest to the value, on the grid of `10 ^ g`. -/
def Interval.hit? (i : Interval) (g : Int) : Option Nat :=
  let r := gridRatio i.value i.den g
  let d := r.1 / r.2
  match i.holds d g, i.holds (d + 1) g with
  | true, true => some (if 2 * (r.1 % r.2) < r.2 then d else d + 1)
  | true, false => some d
  | false, true => some (d + 1)
  | false, false => none

/-- Tries grids of more and more digits. -/
def Interval.search (i : Interval) (k : Int) : Nat → Nat → Decimal
  | 0, n => ⟨i.value / i.den, k - n⟩
  | fuel + 1, n =>
    match i.hit? (k - n) with
    | some d => ⟨d, k - n⟩
    | none => i.search k fuel (n + 1)

/-- Drops trailing zeros. -/
def stripZeros : Nat → Decimal → Decimal
  | 0, d => d
  | fuel + 1, d =>
    if d.digits ≠ 0 ∧ d.digits % 10 = 0 then stripZeros fuel ⟨d.digits / 10, d.exponent + 1⟩ else d

/-- The shortest decimal that reads back as the double `m * 2 ^ e`; zero for zero. -/
def shortest (m : Nat) (e : Int) : Decimal :=
  if m = 0 then ⟨0, 0⟩
  else
    let i := interval m e
    stripZeros 20 (i.search (magnitude i.value i.den) 17 1)

/-- The decimal of `n` significant digits nearest to `m * 2 ^ e`, halves rounded up. -/
def rounded (n : Nat) (m : Nat) (e : Int) : Decimal :=
  if m = 0 then ⟨0, 0⟩
  else
    let p := Double.fraction false m e
    let k := magnitude p.1.natAbs p.2
    let r := gridRatio p.1.natAbs p.2 (k - n)
    let d := (2 * r.1 + r.2) / (2 * r.2)
    stripZeros (n + 2) ⟨d, k - n⟩

end Decimal

end Registrar.Number
