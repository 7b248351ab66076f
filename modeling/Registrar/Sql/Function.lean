import Registrar.Sql.Operator
import Registrar.Sql.Pattern
import Registrar.Text.Quoted

/-!
# Functions

What the functions of one row do to cells.  Names and numbers of arguments have been checked
before, so that a call that fits no rule yields nothing.
-/

namespace Registrar.Sql

open Registrar.Text Registrar.Number

namespace Cell

/-- The hexadecimal digits of bytes, in capitals. -/
def hexText (bytes : List UInt8) : String :=
  String.ofList (bytes.flatMap fun b =>
    [upperChar (hexDigit (b.toNat / 16)), upperChar (hexDigit (b.toNat % 16))])

/-- A cell as a statement writes it. -/
def quote : Cell → Cell
  | .null => .text "NULL"
  | .integer n => .text (intText n.toInt)
  | .real x => .text (storedRealText x)
  | .text s => .text (String.ofList
      ('\x27' :: s.toList.flatMap (fun c => if c = '\x27' then [c, c] else [c]) ++ ['\x27']))
  | .mangled bytes => ofTextBytes (0x27 :: bytes ++ [0x27])
  | .blob bytes => .text ("X'" ++ hexText bytes ++ "'")

/-- The number of characters of a text, or of bytes. -/
def length : Cell → Cell
  | .null => .null
  | .blob bytes => .integer (Int64.ofNat bytes.length)
  | .text s => .integer (Int64.ofNat (s.toList.takeWhile (· != '\x00')).length)
  | cell => match cell.textual with
    | .text s => .integer (Int64.ofNat s.toList.length)
    | cell => .integer (Int64.ofNat cell.chars.length)

/-- The number without its sign. -/
def abs : Cell → Except Problem Cell
  | .null => .ok .null
  | .integer n =>
    match int64? n.toInt.natAbs with
    | some m => .ok (.integer m)
    | none => .error .wholeOverflow
  | cell =>
    let x := cell.toReal
    .ok (.real (if x.negative then x.neg else x))

/-- The sign of a number. -/
def sign (cell : Cell) : Cell :=
  match cell.numeric with
  | .integer n => .integer (if n < 0 then -1 else if n = 0 then 0 else 1)
  | .real x => .integer (if x.isZero || x.isNan then 0 else if x.negative then -1 else 1)
  | _ => .null

/-- The slice of a list that starts at a place, from one, or from the end when negative; a
negative length reaches back from the place. -/
def slice {α : Type} (items : List α) (start : Int) (length : Option Int) : List α :=
  let size : Int := items.length
  let low := if start < 0 then size + start else if start = 0 then -1 else start - 1
  let high := match length with
    | none => size
    | some n => low + n
  let first := max 0 (min low high)
  let last := max 0 (max low high)
  (items.take last.toNat).drop first.toNat

/-- A part of a text or of bytes. -/
def substring (cell : Cell) (start : Cell) (length : Option Cell) : Cell :=
  if cell.isNull || start.isNull || (length.map isNull).getD false then .null
  else
    let size := length.map fun n => n.toInt64.toInt
    match cell with
    | .blob bytes => .blob (slice bytes start.toInt64.toInt size)
    | cell => match cell.asText with
      | .text s => .text (String.ofList (slice s.toList start.toInt64.toInt size))
      | cell => ofTextBytes (slice cell.bytesOf start.toInt64.toInt size)

/-- The place of a part in a list, from one; zero when it does not occur. -/
def placeOf {α : Type} [BEq α] (part : List α) : List α → Nat
  | [] => if part.isEmpty then 1 else 0
  | a :: as =>
    if part.isPrefixOf (a :: as) then 1
    else
      let place := placeOf part as
      if place = 0 then 0 else place + 1

/-- The place of a text in another. -/
def instr (whole part : Cell) : Cell :=
  match whole, part with
  | .null, _ | _, .null => .null
  | .blob xs, .blob ys => .integer (Int64.ofNat (placeOf ys xs))
  | whole, part =>
    match whole.asText, part.asText with
    | .text s, .text t => .integer (Int64.ofNat (placeOf t.toList s.toList))
    | whole, part => .integer (Int64.ofNat (placeOf part.bytesOf whole.bytesOf))

/-- Puts new characters in the place of a part, from left to right. -/
def substitute (part new : List Char) : Nat → List Char → List Char
  | 0, cs => cs
  | _ + 1, [] => []
  | fuel + 1, c :: cs =>
    if part.isPrefixOf (c :: cs) then new ++ substitute part new fuel ((c :: cs).drop part.length)
    else c :: substitute part new fuel cs

/-- Puts a new text in the place of every occurrence of a part. -/
def replace (whole part new : Cell) : Cell :=
  match whole.asText, part.asText, new.asText with
  | .null, _, _ | _, .null, _ | _, _, .null => .null
  | .text s, .text t, .text u =>
    if t.isEmpty then .text s
    else .text (String.ofList (substitute t.toList u.toList (s.toList.length + 1) s.toList))
  | whole, _, _ => whole

/-- A text without some characters at its start or its end. -/
def strip (atStart atEnd : Bool) (cell odd : Cell) : Cell :=
  match cell.asText, odd.asText with
  | .null, _ | _, .null => .null
  | .text s, .text t =>
    let drop := fun cs : List Char => cs.dropWhile fun c => t.toList.contains c
    let front := if atStart then drop s.toList else s.toList
    .text (String.ofList (if atEnd then (drop front.reverse).reverse else front))
  | cell, _ => cell

/-- A number rounded to some digits behind the point, halves away from zero. -/
def round (cell : Cell) (digits : Option Cell) : Cell :=
  if cell.isNull || (digits.map isNull).getD false then .null
  else
    let places : Nat := match digits with
      | some d => (max 0 (min 30 d.toInt64.toInt)).toNat
      | none => 0
    let x := cell.toReal
    match x.view with
    | .finite negative m e =>
      let p := Double.fraction false m e
      let scaled : Nat := p.1.toNat * Nat.pow 10 places
      .real (Double.ofDecimal negative ((2 * scaled + p.2) / (2 * p.2)) (-(places : Int)))
    | _ => ofReal x

/-- The least or the greatest of several cells, nothing if one of them is nothing. -/
def extreme (wanted : Ordering) (collation : Collation) : List Cell → Cell
  | [] => .null
  | a :: as =>
    if (a :: as).any isNull then .null
    else as.foldl (fun best b => if order collation b best == wanted then b else best) a

/-- Whether a text matches a pattern; nothing if either is nothing. -/
def matchesPattern (kind : PatternKind) (shape text : Cell) (escape : Option Cell) :
    Except Problem Cell :=
  let one := match escape with
    | none => some none
    | some cell => match cell.asText.chars with
      | [c] => some (some c)
      | _ => none
  if (escape.map isNull).getD false then .ok .null
  else
    match one with
    | none => .error .badPattern
    | some escape =>
      if shape.isNull || text.isNull then .ok .null
      else
        match kind with
        | .like => .ok (ofTruth (some (likeMatches escape shape.asText.chars text.asText.chars)))
        | .glob => .ok (ofTruth (some (globMatches shape.asText.chars text.asText.chars)))

/-- What a function does to its arguments. -/
def apply (name : String) (collation : Collation) (arguments : List Cell) :
    Except Problem Cell :=
  match name, arguments with
  | "typeof", [a] => .ok (.text a.typeName)
  | "coalesce", cells | "ifnull", cells => .ok ((cells.find? fun a => !a.isNull).getD .null)
  | "nullif", [a, b] => .ok (if compareWith none collation a b == some .eq then .null else a)
  | "iif", [a, b, c] => .ok (if a.truth == some true then b else c)
  | "likely", [a] | "unlikely", [a] => .ok a
  | "length", [a] => .ok a.length
  | "lower", [a] => .ok (match a.asText with
    | .text s => .text (lowerAscii s)
    | a => a)
  | "upper", [a] => .ok (match a.asText with
    | .text s => .text (upperAscii s)
    | a => a)
  | "abs", [a] => a.abs
  | "sign", [a] => .ok a.sign
  | "hex", [a] => .ok (.text (hexText a.bytesOf))
  | "quote", [a] => .ok a.quote
  | "unicode", [a] => .ok (match a.asText.chars with
    | c :: _ => .integer (Int64.ofNat c.toNat)
    | [] => .null)
  | "char", cells => .ok (.text (String.ofList (cells.map fun a => Char.ofNat a.toInt64.toInt.toNat)))
  | "zeroblob", [a] => .ok (.blob (List.replicate a.toInt64.toInt.toNat 0))
  | "substr", [a, b] | "substring", [a, b] => .ok (a.substring b none)
  | "substr", [a, b, c] | "substring", [a, b, c] => .ok (a.substring b (some c))
  | "instr", [a, b] => .ok (a.instr b)
  | "replace", [a, b, c] => .ok (a.replace b c)
  | "trim", [a] => .ok (strip true true a (.text " "))
  | "ltrim", [a] => .ok (strip true false a (.text " "))
  | "rtrim", [a] => .ok (strip false true a (.text " "))
  | "trim", [a, b] => .ok (strip true true a b)
  | "ltrim", [a, b] => .ok (strip true false a b)
  | "rtrim", [a, b] => .ok (strip false true a b)
  | "round", [a] => .ok (a.round none)
  | "round", [a, b] => .ok (a.round (some b))
  | "min", cells => .ok (extreme .lt collation cells)
  | "max", cells => .ok (extreme .gt collation cells)
  | "glob", [a, b] => matchesPattern .glob a b none
  | "like", [a, b] => matchesPattern .like a b none
  | "like", [a, b, c] => matchesPattern .like a b (some c)
  | _, _ => .ok .null

end Cell

end Registrar.Sql
