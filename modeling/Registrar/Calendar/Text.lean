import Registrar.Calendar.Date
import Registrar.Number.RealText

/-!
# Dates and timestamps in text

A date is written with its year in four digits, or with a sign and at least four digits outside
the years 0 to 9999.  A timestamp follows with the time of day; its fraction takes three, six or
nine digits, and none when it is zero.  The extra second of a minute is written as second 60.

Reading is more liberal: blanks may stand before every number, months, days and times may have a
single digit, an unsigned year up to four digits, and digits behind the ninth of a fraction are
dropped.
-/

namespace Registrar.Calendar

open Registrar.Text Registrar.Number

/-- The year of a date. -/
def yearChars (year : Int) : List Char :=
  if 0 ≤ year ∧ year ≤ 9999 then zeroPadded 4 year.toNat
  else (if year < 0 then '-' else '+') :: zeroPadded 4 year.natAbs

/-- The text of a date. -/
def Date.chars (d : Date) : List Char :=
  yearChars d.year ++ '-' :: zeroPadded 2 d.month ++ '-' :: zeroPadded 2 d.day

/-- The fraction of a second, with its point. -/
def fractionChars (nanos : Nat) : List Char :=
  if nanos = 0 then []
  else if nanos % 1000000 = 0 then '.' :: zeroPadded 3 (nanos / 1000000)
  else if nanos % 1000 = 0 then '.' :: zeroPadded 6 (nanos / 1000)
  else '.' :: zeroPadded 9 nanos

/-- The text of a time of day. -/
def Clock.chars (c : Clock) : List Char :=
  let extra := c.nanos / 1000000000
  zeroPadded 2 c.hour ++ ':' :: zeroPadded 2 c.minute ++ ':' :: zeroPadded 2 (c.second + extra) ++
    fractionChars (c.nanos % 1000000000)

/-- The text of a timestamp, with the given mark between date and time. -/
def Timestamp.chars (mark : Char) (t : Timestamp) : List Char :=
  t.date.chars ++ mark :: t.clock.chars

/-- The text of a date. -/
def Date.text (d : Date) : String :=
  String.ofList d.chars

/-- The text of a timestamp, date and time apart by a space. -/
def Timestamp.text (t : Timestamp) : String :=
  String.ofList (t.chars ' ')

/-- The text of a timestamp in messages and data interchange, date and time apart by a `T`. -/
def Timestamp.markedText (t : Timestamp) : String :=
  String.ofList (t.chars 'T')

/-- Reads digits, at least one and at most `most`; more digits stay for what follows. -/
def readDigits (most : Nat) (cs : List Char) : Option (Nat × List Char) :=
  let ds := (cs.takeWhile isDigit).take most
  if ds.isEmpty then none else some (digitsValue ds, cs.drop ds.length)

/-- Reads a number of one or two digits, with blanks before it or without. -/
def readPair (cs : List Char) : Option (Nat × List Char) :=
  readDigits 2 (trimStart cs)

/-- Reads a year: up to four digits, or a sign and any number of digits. -/
def readYear (cs : List Char) : Option (Int × List Char) :=
  match trimStart cs with
  | '-' :: rest => (readDigits rest.length rest).map fun r => (-(r.1 : Int), r.2)
  | '+' :: rest => (readDigits rest.length rest).map fun r => ((r.1 : Int), r.2)
  | rest => (readDigits 4 rest).map fun r => ((r.1 : Int), r.2)

/-- Drops one expected character. -/
def readMark (mark : Char) : List Char → Option (List Char)
  | [] => none
  | c :: cs => if c = mark then some cs else none

/-- Reads a date and what follows it. -/
def readDateStart (cs : List Char) : Option (Date × List Char) :=
  (readYear cs).bind fun year =>
  (readMark '-' year.2).bind fun cs =>
  (readPair cs).bind fun month =>
  (readMark '-' month.2).bind fun cs =>
  (readPair cs).bind fun day =>
  (Date.of? year.1 month.1 day.1).map fun date => (date, day.2)

/-- Reads a date that is the whole text. -/
def readDate? (cs : List Char) : Option Date :=
  (readDateStart cs).bind fun r => if r.2.isEmpty then some r.1 else none

/-- The nanoseconds of up to nine digits of a fraction. -/
def fractionValue (ds : List Char) : Nat :=
  digitsValue ds * Nat.pow 10 (9 - ds.length)

/-- Reads the fraction of a second that ends a text: nothing, or a point and digits. -/
def readFraction : List Char → Option Nat
  | [] => some 0
  | c :: cs =>
    if c = '.' ∧ !cs.isEmpty ∧ cs.all isDigit then some (fractionValue (cs.take 9)) else none

/-- Reads a time of day that ends a text. -/
def readClock? (cs : List Char) : Option Clock :=
  (readPair cs).bind fun hour =>
  (readMark ':' hour.2).bind fun cs =>
  (readPair cs).bind fun minute =>
  (readMark ':' minute.2).bind fun cs =>
  (readPair cs).bind fun second =>
  (readFraction second.2).bind fun nanos =>
  if second.1 = 60 then Clock.of? hour.1 minute.1 59 (nanos + 1000000000)
  else Clock.of? hour.1 minute.1 second.1 nanos

/-- Reads a timestamp: date and time apart by blanks or nothing, or by a `T`, or a date alone. -/
def readTimestamp? (cs : List Char) : Option Timestamp :=
  let spaced := (readDateStart cs).bind fun r => (readClock? r.2).map (Timestamp.mk r.1)
  let marked := (readDateStart cs).bind fun r =>
    (readMark 'T' r.2).bind fun rest => (readClock? rest).map (Timestamp.mk r.1)
  let dateOnly := (readDate? cs).map fun date => Timestamp.mk date Clock.midnight
  spaced.or (marked.or dateOnly)

end Registrar.Calendar
