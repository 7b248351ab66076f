import Registrar.Number.IntegerText

/-!
# Binary floating-point numbers

A double is its 64-bit word.  `Double.view` takes the word apart into a sign, a significand and a
power of two, and `Double.ofRatio` rounds any fraction to the nearest double, a tie going to the
even significand.  Arithmetic is exact arithmetic on fractions followed by that rounding, so
nothing here depends on the processor.
-/

namespace Registrar.Number

/-- A double-precision number, as the word that stores it. -/
structure Double where
  /-- Sign, exponent and fraction fields, from the high bit down. -/
  bits : UInt64
deriving DecidableEq

/-- What a double stands for. -/
inductive Double.View where
  /-- No number. -/
  | nan
  /-- An infinity. -/
  | infinite (negative : Bool)
  /-- The number `m * 2 ^ e`, negated when `negative`. -/
  | finite (negative : Bool) (m : Nat) (e : Int)
deriving DecidableEq

namespace Double

/-- The sign field. -/
def negative (x : Double) : Bool :=
  Nat.pow 2 63 ≤ x.bits.toNat

/-- The exponent field. -/
def exponentField (x : Double) : Nat :=
  x.bits.toNat / Nat.pow 2 52 % 2048

/-- The fraction field. -/
def fractionField (x : Double) : Nat :=
  x.bits.toNat % Nat.pow 2 52

/-- Takes a double apart. -/
def view (x : Double) : View :=
  if x.exponentField = 2047 then
    if x.fractionField = 0 then .infinite x.negative else .nan
  else if x.exponentField = 0 then .finite x.negative x.fractionField (-1074)
  else .finite x.negative (x.fractionField + Nat.pow 2 52) ((x.exponentField : Int) - 1075)

/-- The double with a given sign and a given word below the sign. -/
def ofFields (negative : Bool) (word : Nat) : Double :=
  ⟨UInt64.ofNat (if negative then Nat.pow 2 63 + word else word)⟩

/-- Zero with a sign. -/
def zero (negative : Bool) : Double :=
  ofFields negative 0

/-- Infinity with a sign. -/
def infinity (negative : Bool) : Double :=
  ofFields negative (2047 * Nat.pow 2 52)

/-- The word that stands for all values that are no number. -/
def nan : Double :=
  ofFields false (2047 * Nat.pow 2 52 + Nat.pow 2 51)

/-- Whether a double is no number. -/
def isNan (x : Double) : Bool :=
  x.view == .nan

/-- The whole number nearest to `num / den`; a tie goes to the even one. -/
def roundHalfEven (num den : Nat) : Nat :=
  let q := num / den
  let r := num % den
  if 2 * r < den then q
  else if den < 2 * r then q + 1
  else if q % 2 = 0 then q else q + 1

/-- `num / den` divided by `2 ^ e`, as a fraction of whole numbers. -/
def scaled (num den : Nat) (e : Int) : Nat × Nat :=
  if 0 ≤ e then (num, den * Nat.pow 2 e.toNat) else (num * Nat.pow 2 (-e).toNat, den)

/-- The double nearest to `num / den`, ties to the even significand; `den` is not zero. -/
def ofRatio (negative : Bool) (num den : Nat) : Double :=
  if num = 0 then zero negative
  else
    let k : Int := (Nat.log2 num : Int) - (Nat.log2 den : Int)
    let above := scaled num den k
    let e := max (-1074) (if above.1 < above.2 then k - 53 else k - 52)
    let fraction := scaled num den e
    let m := roundHalfEven fraction.1 fraction.2
    let word := (e + 1074).toNat * Nat.pow 2 52 + m
    if 2047 * Nat.pow 2 52 ≤ word then infinity negative else ofFields negative word

/-- The double nearest to a whole number. -/
def ofInt (n : Int) : Double :=
  ofRatio (n < 0) n.natAbs 1

/-- The double nearest to `m * 10 ^ e`. -/
def ofDecimal (negative : Bool) (m : Nat) (e : Int) : Double :=
  if m = 0 then zero negative
  else
    let size := (natDigits m).length
    if 310 < e + size then infinity negative
    else if e + size < -330 then zero negative
    else if 0 ≤ e then ofRatio negative (m * Nat.pow 10 e.toNat) 1
    else ofRatio negative m (Nat.pow 10 (-e).toNat)

/-- A finite number as a fraction: a signed numerator and a denominator. -/
def fraction (negative : Bool) (m : Nat) (e : Int) : Int × Nat :=
  let n := if 0 ≤ e then m * Nat.pow 2 e.toNat else m
  let d := if 0 ≤ e then 1 else Nat.pow 2 (-e).toNat
  (if negative then -(n : Int) else n, d)

/-- A double that is a number or an infinity, on the line of fractions: infinities lie beyond every
finite double. -/
def onLine (x : Double) : Option (Int × Nat) :=
  match x.view with
  | .nan => none
  | .infinite negative =>
    some (if negative then -(Nat.pow 2 1100 : Int) else (Nat.pow 2 1100 : Int), 1)
  | .finite negative m e => some (fraction negative m e)

/-- Compares two fractions with positive denominators. -/
def compareRatios (a b : Int × Nat) : Ordering :=
  compare (a.1 * b.2) (b.1 * a.2)

/-- The order of two doubles; no number comes before all others. -/
def order (x y : Double) : Ordering :=
  match x.onLine, y.onLine with
  | some a, some b => compareRatios a b
  | none, some _ => .lt
  | some _, none => .gt
  | none, none => .eq

/-- The order of a whole number and a double. -/
def orderInt (n : Int) (y : Double) : Ordering :=
  match y.onLine with
  | some b => compareRatios (n, 1) b
  | none => .gt

/-- Whether a double is zero, of either sign. -/
def isZero (x : Double) : Bool :=
  x.exponentField == 0 && x.fractionField == 0

/-- The same number with the other sign. -/
def neg (x : Double) : Double :=
  if x.isNan then x else ofFields (!x.negative) (x.bits.toNat % Nat.pow 2 63)

/-- The double nearest to a signed fraction; zero takes the given sign. -/
def ofSigned (zeroSign : Bool) (n : Int) (d : Nat) : Double :=
  if n = 0 then zero zeroSign else ofRatio (n < 0) n.natAbs d

/-- The sum of two doubles. -/
def add (x y : Double) : Double :=
  match x.view, y.view with
  | .nan, _ | _, .nan => nan
  | .infinite a, .infinite b => if a == b then infinity a else nan
  | .infinite a, _ => infinity a
  | _, .infinite b => infinity b
  | .finite a m e, .finite b n f =>
    let p := fraction a m e
    let q := fraction b n f
    ofSigned (a && b) (p.1 * q.2 + q.1 * p.2) (p.2 * q.2)

/-- The difference of two doubles. -/
def sub (x y : Double) : Double :=
  add x (neg y)

/-- The product of two doubles. -/
def mul (x y : Double) : Double :=
  let sign := x.negative != y.negative
  match x.view, y.view with
  | .nan, _ | _, .nan => nan
  | .infinite _, _ => if y.isZero then nan else infinity sign
  | _, .infinite _ => if x.isZero then nan else infinity sign
  | .finite a m e, .finite b n f =>
    let p := fraction a m e
    let q := fraction b n f
    ofSigned sign (p.1 * q.1) (p.2 * q.2)

/-- The quotient of two doubles. -/
def div (x y : Double) : Double :=
  let sign := x.negative != y.negative
  match x.view, y.view with
  | .nan, _ | _, .nan => nan
  | .infinite _, .infinite _ => nan
  | .infinite _, _ => infinity sign
  | _, .infinite _ => zero sign
  | .finite a m e, .finite b n f =>
    if n = 0 then if m = 0 then nan else infinity sign
    else
      let p := fraction a m e
      let q := fraction b n f
      ofRatio sign (p.1.natAbs * q.2) (p.2 * q.1.natAbs)

/-- The whole part of a finite double, toward zero; infinities and no number have none. -/
def whole? (x : Double) : Option Int :=
  match x.view with
  | .finite negative m e =>
    let p := fraction negative m e
    some (Int.tdiv p.1 p.2)
  | _ => none

/-- Whether a double is a whole number. -/
def isWhole (x : Double) : Bool :=
  match x.view with
  | .finite negative m e =>
    let p := fraction negative m e
    p.1 % p.2 == 0
  | _ => false

end Double

end Registrar.Number
