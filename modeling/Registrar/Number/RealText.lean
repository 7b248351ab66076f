import Registrar.Number.Shortest

/-!
# Real numbers in text

How a real number is written.  The digits come from `Decimal`; a `RealLayout` decides the rest:
between which exponents the point is placed among the digits, whether whole numbers keep a zero
behind the point, and how an exponent looks.  Reading takes an optional sign, digits with at most
one point, and an optional exponent.
-/

namespace Registrar.Number

open Registrar.Text

/-- The choices that remain once the digits of a real number are known. -/
structure RealLayout where
  /-- The least power of ten of a leading digit that is written without an exponent. -/
  lowest : Int
  /-- The greatest power of ten of a leading digit that is written without an exponent. -/
  highest : Int
  /-- Whole numbers written without an exponent end in a point and a zero. -/
  wholePoint : Bool
  /-- A single digit before an exponent is followed by a point and a zero. -/
  exponentPoint : Bool
  /-- Exponents that are not negative carry a plus sign. -/
  plus : Bool
  /-- The least number of digits of an exponent. -/
  exponentWidth : Nat
  nan : String
  infinite : String

/-- Plain digits: never an exponent. -/
def RealLayout.plain : RealLayout :=
  ⟨-400, 400, false, false, false, 1, "NaN", "inf"⟩

/-- Messages: a point always shows that the number is real. -/
def RealLayout.message : RealLayout :=
  ⟨-4, 15, true, false, false, 1, "NaN", "inf"⟩

/-- Data interchange: like messages, but down to `1e-5` and with signed exponents; what is no
finite number is written as no value. -/
def RealLayout.data : RealLayout :=
  ⟨-5, 15, true, false, true, 1, "null", "null"⟩

/-- Fifteen digits at most, a point always, exponents of two digits. -/
def RealLayout.stored : RealLayout :=
  ⟨-4, 14, true, true, true, 2, "NaN", "Inf"⟩

/-- Digits with an exponent. -/
def RealLayout.exponential (layout : RealLayout) (ds : List Char) (x : Int) : List Char :=
  let mantissa :=
    match ds with
    | [] => ['0']
    | [d] => if layout.exponentPoint then [d, '.', '0'] else [d]
    | d :: rest => d :: '.' :: rest
  let sign := if x < 0 then ['-'] else if layout.plus then ['+'] else []
  mantissa ++ 'e' :: sign ++ zeroPadded layout.exponentWidth x.natAbs

/-- Digits with the point in its place, the leading digit at the power `x` of ten. -/
def RealLayout.positional (layout : RealLayout) (ds : List Char) (x : Int) : List Char :=
  if x < 0 then ['0', '.'] ++ List.replicate ((-x).toNat - 1) '0' ++ ds
  else
    let whole := x.toNat + 1
    if ds.length ≤ whole then
      ds ++ List.replicate (whole - ds.length) '0' ++ (if layout.wholePoint then ['.', '0'] else [])
    else ds.take whole ++ '.' :: ds.drop whole

/-- A decimal without its sign. -/
def RealLayout.unsigned (layout : RealLayout) (d : Decimal) : List Char :=
  let ds := natDigits d.digits
  let x := if d.digits = 0 then 0 else d.exponent + ds.length - 1
  if layout.lowest ≤ x ∧ x ≤ layout.highest then layout.positional ds x
  else layout.exponential ds x

/-- Writes a double whose digits are chosen by `pick`. -/
def RealLayout.writeWith (layout : RealLayout) (pick : Nat → Int → Decimal) (x : Double) : String :=
  match x.view with
  | .nan => layout.nan
  | .infinite negative =>
    if negative && layout.infinite != "null" then "-" ++ layout.infinite else layout.infinite
  | .finite negative m e =>
    String.ofList ((if negative then ['-'] else []) ++ layout.unsigned (pick m e))

/-- Writes a double with the fewest digits that read back. -/
def RealLayout.write (layout : RealLayout) (x : Double) : String :=
  layout.writeWith Decimal.shortest x

/-- The text of a real number in a column of texts: fifteen digits at most, and no negative
zero. -/
def storedRealText (x : Double) : String :=
  if x.isZero then "0.0" else RealLayout.stored.writeWith (Decimal.rounded 15) x

/-- A run of digits and what follows it. -/
def spanDigits (cs : List Char) : List Char × List Char :=
  (cs.takeWhile isDigit, cs.dropWhile isDigit)

/-- Reads an optional sign: whether it is negative, and the rest. -/
def spanSign : List Char → Bool × List Char
  | '-' :: cs => (true, cs)
  | '+' :: cs => (false, cs)
  | cs => (false, cs)

/-- Reads an exponent that ends the text, or nothing. -/
def exponent? : List Char → Option Int
  | [] => some 0
  | c :: cs =>
    if c == 'e' || c == 'E' then
      let sign := spanSign cs
      (unsigned? sign.2).map fun n => if sign.1 then -(n : Int) else (n : Int)
    else none

/-- Reads a decimal number: digits with at most one point and at least one digit, an optional
exponent, an optional sign in front. -/
def readReal? (cs : List Char) : Option Double :=
  let sign := spanSign cs
  let whole := spanDigits sign.2
  let part :=
    match whole.2 with
    | '.' :: rest => spanDigits rest
    | rest => ([], rest)
  if whole.1.isEmpty && part.1.isEmpty then none
  else
    (exponent? part.2).map fun x =>
      Double.ofDecimal sign.1 (digitsValue (whole.1 ++ part.1)) (x - part.1.length)

end Registrar.Number
