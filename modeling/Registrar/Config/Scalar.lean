import Registrar.Number.IntegerText

/-!
# Bare values of a configuration

Which runs of characters are numbers, booleans, dates and times.  A configuration only needs to
know that they are well formed, not what they mean.
-/

namespace Registrar.Config

open Registrar.Text Registrar.Number

/-- A run of digits in which single underscores may stand between digits. -/
def isDigitRun (isDigit : Char → Bool) (cs : List Char) : Bool :=
  (splitWhere (· == '_') cs).all fun piece => !piece.isEmpty && piece.all isDigit

/-- A hexadecimal digit. -/
def isHexDigit (c : Char) : Bool :=
  isDigit c || ('a' ≤ c && c ≤ 'f') || ('A' ≤ c && c ≤ 'F')

/-- The value of a digit of any base. -/
def digitOf (c : Char) : Nat :=
  if isDigit c then c.toNat - 48 else (lowerChar c).toNat - 87

/-- The value of a run of digits, underscores left out. -/
def runValue (base : Nat) (cs : List Char) : Nat :=
  (cs.filter (· != '_')).foldl (fun n c => base * n + digitOf c) 0

/-- A run of digits in a base, of a value of at most 63 bits. -/
def isBased (base : Nat) (isDigit : Char → Bool) (cs : List Char) : Bool :=
  isDigitRun isDigit cs && runValue base cs < Nat.pow 2 63

/-- Digits without a superfluous zero in front. -/
def isWhole (cs : List Char) : Bool :=
  isDigitRun isDigit cs && (cs.length = 1 || cs.head? != some '0')

/-- What stands behind an optional sign. -/
def unsignedPart : List Char → Bool × List Char
  | '-' :: cs => (true, cs)
  | '+' :: cs => (false, cs)
  | cs => (false, cs)

/-- A whole number of 64 bits. -/
def isIntegerText (cs : List Char) : Bool :=
  match cs with
  | '0' :: 'x' :: ds => isBased 16 isHexDigit ds
  | '0' :: 'o' :: ds => isBased 8 (fun c => '0' ≤ c && c ≤ '7') ds
  | '0' :: 'b' :: ds => isBased 2 (fun c => c == '0' || c == '1') ds
  | cs =>
    let part := unsignedPart cs
    isWhole part.2 && runValue 10 part.2 < Nat.pow 2 63 + (if part.1 then 1 else 0)

/-- Cuts a text at the first character that satisfies a test. -/
def cutAt (cut : Char → Bool) (cs : List Char) : List Char × Option (List Char) :=
  match cs.dropWhile fun c => !cut c with
  | [] => (cs, none)
  | _ :: rest => (cs.takeWhile fun c => !cut c, some rest)

/-- The digits of an exponent. -/
def isExponent (cs : List Char) : Bool :=
  isDigitRun isDigit (unsignedPart cs).2

/-- A real number. -/
def isRealText (cs : List Char) : Bool :=
  let part := (unsignedPart cs).2
  if part == "inf".toList || part == "nan".toList then true
  else
    let powers := cutAt (fun c => c == 'e' || c == 'E') part
    let point := cutAt (· == '.') powers.1
    (point.2.isSome || powers.2.isSome) && isWhole point.1 &&
      (match point.2 with
        | some digits => isDigitRun isDigit digits
        | none => true) &&
      (match powers.2 with
        | some digits => isExponent digits
        | none => true)

/-- Two digits of a value of at most a bound. -/
def isPair (least most : Nat) (cs : List Char) : Bool :=
  cs.length = 2 && cs.all isDigit && least ≤ digitsValue cs && digitsValue cs ≤ most

/-- A date of year, month and day. -/
def isDateText (cs : List Char) : Bool :=
  match splitWhere (· == '-') cs with
  | [year, month, day] =>
    year.length = 4 && year.all isDigit && isPair 1 12 month && isPair 1 31 day
  | _ => false

/-- A time of day, perhaps with a fraction. -/
def isTimeText (cs : List Char) : Bool :=
  match splitWhere (· == ':') cs with
  | [hour, minute, rest] =>
    let seconds := cutAt (· == '.') rest
    isPair 0 24 hour && isPair 0 59 minute && isPair 0 60 seconds.1 &&
      (match seconds.2 with
        | some digits => !digits.isEmpty && digits.all isDigit
        | none => true)
  | _ => false

/-- A time of day with an optional offset. -/
def isOffsetTimeText (cs : List Char) : Bool :=
  match cs.getLast? with
  | some 'Z' | some 'z' => isTimeText cs.dropLast
  | _ =>
    match cutAt (fun c => c == '+' || c == '-') cs with
    | (time, none) => isTimeText time
    | (time, some offset) =>
      match splitWhere (· == ':') offset with
      | [hour, minute] => isTimeText time && isPair 0 24 hour && isPair 0 59 minute
      | _ => false

/-- A date, a time of day, or both. -/
def isMomentText (cs : List Char) : Bool :=
  isTimeText cs || isDateText cs ||
    match cs.drop 10 with
    | mark :: time =>
      (mark == 'T' || mark == 't' || mark == ' ') && isDateText (cs.take 10) && isOffsetTimeText time
    | [] => false

/-- A bare value. -/
def isScalarText (cs : List Char) : Bool :=
  cs == "true".toList || cs == "false".toList || isIntegerText cs || isRealText cs ||
    isMomentText cs

end Registrar.Config
