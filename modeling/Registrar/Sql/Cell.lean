import Registrar.Number.RealText

/-!
# Cells

The five kinds of value that a table keeps, their order, and the conversions between them.  A
column's affinity says which conversions a value undergoes when it is stored in the column or
compared with it.

Cells of different kinds are ordered by kind: nothing, numbers, text, bytes.  Whole numbers and
reals are compared exactly.
-/

namespace Registrar.Sql

open Registrar.Text Registrar.Number

/-- A value in a table. -/
inductive Cell where
  | null
  | integer (n : Int64)
  | real (x : Double)
  | text (s : String)
  /-- Text whose bytes are no well-formed UTF-8. -/
  | mangled (bytes : List UInt8)
  | blob (bytes : List UInt8)
deriving DecidableEq

/-- The conversion that a column prefers. -/
inductive Affinity where
  | blob
  | text
  | numeric
  | integer
  | real
deriving DecidableEq

/-- How two texts are compared. -/
inductive Collation where
  /-- By their bytes. -/
  | binary
  /-- By their bytes, ASCII capitals counted as small letters. -/
  | nocase
  /-- By their bytes, spaces at the end left out. -/
  | rtrim
deriving DecidableEq

/-- The affinity of a declared type, by the words that occur in it. -/
def Affinity.ofDeclared (declared : String) : Affinity :=
  let name := (upperAscii declared).toList
  let mentions := fun word : String => occursIn word.toList name
  if mentions "INT" then .integer
  else if mentions "CHAR" || mentions "CLOB" || mentions "TEXT" then .text
  else if mentions "BLOB" || name.isEmpty then .blob
  else if mentions "REAL" || mentions "FLOA" || mentions "DOUB" then .real
  else .numeric

/-- Affinities that turn text into numbers. -/
def Affinity.isNumeric : Affinity → Bool
  | .numeric | .integer | .real => true
  | .blob | .text => false

/-- A text as a collation sees it. -/
def Collation.key (collation : Collation) (s : String) : String :=
  match collation with
  | .binary => s
  | .nocase => lowerAscii s
  | .rtrim => String.ofList ((s.toList.reverse.dropWhile (· == ' ')).reverse)

namespace Cell

instance : Inhabited Cell := ⟨.null⟩

/-- The bytes of a text. -/
def utf8 (s : String) : List UInt8 :=
  s.toUTF8.toList

/-- The text of some bytes. -/
def ofTextBytes (bytes : List UInt8) : Cell :=
  match String.fromUTF8? (ByteArray.mk bytes.toArray) with
  | some s => .text s
  | none => .mangled bytes

/-- The place of a cell's kind in the order of kinds. -/
def rank : Cell → Nat
  | .null => 0
  | .integer _ | .real _ => 1
  | .text _ | .mangled _ => 2
  | .blob _ => 3

/-- The order of two lists of bytes. -/
def orderBytes : List UInt8 → List UInt8 → Ordering
  | [], [] => .eq
  | [], _ :: _ => .lt
  | _ :: _, [] => .gt
  | a :: as, b :: bs => (compare a.toNat b.toNat).then (orderBytes as bs)

/-- The order of two cells. -/
def order (collation : Collation) (a b : Cell) : Ordering :=
  match a, b with
  | .integer m, .integer n => compare m.toInt n.toInt
  | .integer m, .real y => Double.orderInt m.toInt y
  | .real x, .integer n => (Double.orderInt n.toInt x).swap
  | .real x, .real y => Double.order x y
  | .text s, .text t => compare (collation.key s) (collation.key t)
  | .text s, .mangled ys => orderBytes (utf8 s) ys
  | .mangled xs, .text t => orderBytes xs (utf8 t)
  | .mangled xs, .mangled ys => orderBytes xs ys
  | .blob xs, .blob ys => orderBytes xs ys
  | a, b => compare a.rank b.rank

/-- A white-space byte inside a number's text. -/
def isSpace (c : Char) : Bool :=
  c == ' ' || (0x09 ≤ c.toNat && c.toNat ≤ 0x0d)

/-- The number at the start of a text. -/
structure NumberStart where
  negative : Bool
  /-- Digits before the point. -/
  whole : List Char
  /-- Digits behind the point. -/
  part : List Char
  exponent : Int
  /-- A point or an exponent was there. -/
  isReal : Bool
  /-- Nothing but white space follows the number. -/
  complete : Bool

/-- Reads an exponent, when a whole one is there. -/
def startExponent (cs : List Char) : Option (Int × List Char) :=
  match cs with
  | c :: rest =>
    if c == 'e' || c == 'E' then
      let sign := spanSign rest
      let digits := spanDigits sign.2
      if digits.1.isEmpty then none
      else some (if sign.1 then -(digitsValue digits.1 : Int) else digitsValue digits.1, digits.2)
    else none
  | [] => none

/-- Reads the number at the start of a text, white space before it left out. -/
def numberStart (cs : List Char) : NumberStart :=
  let sign := spanSign (cs.dropWhile isSpace)
  let whole := spanDigits sign.2
  let part : Bool × List Char × List Char :=
    match whole.2 with
    | '.' :: rest => (true, spanDigits rest)
    | rest => (false, [], rest)
  let exponent := startExponent part.2.2
  let rest := match exponent with
    | some (_, rest) => rest
    | none => part.2.2
  { negative := sign.1, whole := whole.1, part := part.2.1,
    exponent := match exponent with
      | some (x, _) => x
      | none => 0,
    isReal := part.1 || exponent.isSome,
    complete := !(whole.1.isEmpty && part.2.1.isEmpty) && rest.all isSpace }

/-- The value of the number at the start of a text, as a real. -/
def NumberStart.toDouble (n : NumberStart) : Double :=
  Double.ofDecimal n.negative (digitsValue (n.whole ++ n.part)) (n.exponent - n.part.length)

/-- The value of the digits before the point. -/
def NumberStart.toInt (n : NumberStart) : Int :=
  if n.negative then -(digitsValue n.whole : Int) else digitsValue n.whole

/-- The whole number of 64 bits nearest to a value. -/
def clamp (n : Int) : Int64 :=
  if n < Int64.minValue.toInt then Int64.minValue
  else if Int64.maxValue.toInt < n then Int64.maxValue
  else Int64.ofInt n

/-- The whole number equal to a real, unless it is one of the two outermost ones. -/
def wholeOf? (x : Double) : Option Int64 :=
  if x.isWhole then
    match x.whole? with
    | some n =>
      if Int64.minValue.toInt < n ∧ n < Int64.maxValue.toInt then some (Int64.ofInt n) else none
    | none => none
  else none

/-- The number that a whole text stands for, if it stands for one. -/
def number? (cs : List Char) : Option Cell :=
  let n := numberStart cs
  if !n.complete then none
  else if n.isReal then some (.real n.toDouble)
  else
    match int64? n.toInt with
    | some i => some (.integer i)
    | none => some (.real n.toDouble)

/-- The characters of text or bytes, each odd byte as one character. -/
def chars : Cell → List Char
  | .text s => s.toList
  | .mangled bytes | .blob bytes => bytes.map fun b => Char.ofNat b.toNat
  | _ => []

/-- The text of a number. -/
def numberText? : Cell → Option String
  | .integer n => some (intText n.toInt)
  | .real x => some (storedRealText x)
  | _ => none

/-- A real that equals a whole number becomes that number. -/
def settle : Cell → Cell
  | .real x => match wholeOf? x with
    | some n => .integer n
    | none => .real x
  | cell => cell

/-- A cell that a column of an affinity keeps in place of another. -/
def store (affinity : Affinity) (cell : Cell) : Cell :=
  match affinity with
  | .blob => cell
  | .text => match cell.numberText? with
    | some s => .text s
    | none => cell
  | .numeric | .integer => match cell with
    | .text s => match number? s.toList with
      | some n => settle n
      | none => cell
    | cell => settle cell
  | .real => match cell with
    | .text s => match number? s.toList with
      | some (.integer n) => .real (Double.ofInt n.toInt)
      | some (.real x) => .real (if x.isZero then Double.zero false else x)
      | _ => cell
    | .integer n => .real (Double.ofInt n.toInt)
    | .real x => .real (if x.isZero then Double.zero false else x)
    | cell => cell

/-- The number that text stands for; other cells, and text that stands for none, are kept. -/
def numeric (cell : Cell) : Cell :=
  match cell with
  | .text s => (number? s.toList).getD cell
  | _ => cell

/-- The text of a number; other cells are kept. -/
def textual (cell : Cell) : Cell :=
  match cell.numberText? with
  | some s => .text s
  | none => cell

/-- Whether a cell is text. -/
def isText : Cell → Bool
  | .text _ | .mangled _ => true
  | _ => false

/-- Whether a cell holds nothing. -/
def isNull : Cell → Bool
  | .null => true
  | _ => false

/-- The two sides of a comparison, converted as the affinity of the comparison demands. -/
def aligned (affinity : Option Affinity) (a b : Cell) : Cell × Cell :=
  match affinity with
  | some .text => if a.isText || b.isText then (a.textual, b.textual) else (a, b)
  | some .blob | none => (a, b)
  | some .numeric | some .integer | some .real => (a.numeric, b.numeric)

/-- The order of two cells in a comparison, nothing if either holds nothing. -/
def compareWith (affinity : Option Affinity) (collation : Collation) (a b : Cell) :
    Option Ordering :=
  if a.isNull || b.isNull then none
  else
    let sides := aligned affinity a b
    some (order collation sides.1 sides.2)

/-- The truth of a cell: nothing has none, numbers other than zero are true, and so is text that
starts with such a number. -/
def truth : Cell → Option Bool
  | .null => none
  | .integer n => some (n != 0)
  | .real x => some (!x.isZero && !x.isNan)
  | cell => some (!(numberStart cell.chars).toDouble.isZero)

/-- The cell of a truth value. -/
def ofTruth : Option Bool → Cell
  | none => .null
  | some true => .integer 1
  | some false => .integer 0

/-- The name of a cell's kind. -/
def typeName : Cell → String
  | .null => "null"
  | .integer _ => "integer"
  | .real _ => "real"
  | .text _ | .mangled _ => "text"
  | .blob _ => "blob"

/-- A cell as a number for arithmetic; text counts by the number at its start. -/
def toNumber : Cell → Cell
  | .null => .null
  | .integer n => .integer n
  | .real x => .real x
  | cell =>
    let n := numberStart cell.chars
    if n.isReal then .real n.toDouble
    else
      match int64? n.toInt with
      | some i => .integer i
      | none => .real n.toDouble

/-- A cell as a real. -/
def toReal : Cell → Double
  | .null => Double.zero false
  | .integer n => Double.ofInt n.toInt
  | .real x => x
  | cell => (numberStart cell.chars).toDouble

/-- A real as a whole number, cut toward zero and kept within 64 bits. -/
def cut (x : Double) : Int64 :=
  match x.view with
  | .nan => 0
  | .infinite negative => if negative then Int64.minValue else Int64.maxValue
  | .finite _ _ _ => clamp (x.whole?.getD 0)

/-- A cell as a whole number. -/
def toInt64 : Cell → Int64
  | .null => 0
  | .integer n => n
  | .real x => cut x
  | cell => clamp (numberStart cell.chars).toInt

/-- The text of a cell; bytes are taken as text. -/
def asText : Cell → Cell
  | .null => .null
  | .blob bytes => ofTextBytes bytes
  | cell => cell.textual

/-- The bytes of a cell's text. -/
def bytesOf : Cell → List UInt8
  | .null => []
  | .text s => utf8 s
  | .mangled bytes | .blob bytes => bytes
  | .integer n => utf8 (intText n.toInt)
  | .real x => utf8 (storedRealText x)

/-- A cell converted to a type. -/
def cast (affinity : Affinity) (cell : Cell) : Cell :=
  match cell with
  | .null => .null
  | cell =>
    match affinity with
    | .blob => match cell with
      | .blob bytes => .blob bytes
      | cell => .blob cell.bytesOf
    | .text => cell.asText
    | .integer => .integer cell.toInt64
    | .real => .real cell.toReal
    | .numeric => match cell with
      | .integer n => .integer n
      | .real x => .real x
      | cell => settle cell.toNumber

end Cell

end Registrar.Sql
