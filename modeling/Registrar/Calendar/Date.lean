/-!
# Calendar dates and times of day

Dates of the Gregorian calendar, extended to both sides of its history, within a fixed range of
years.  A time of day has nanoseconds; the last second of a minute may run on for a further
second, which is how leap seconds are kept.  Values that are no date or no time cannot be built.
-/

namespace Registrar.Calendar

/-- The first year with dates. -/
def firstYear : Int := -262143

/-- The last year with dates. -/
def lastYear : Int := 262142

/-- Leap years: every fourth, but of the centuries only every fourth. -/
def isLeapYear (year : Int) : Bool :=
  year % 4 == 0 && (year % 100 != 0 || year % 400 == 0)

/-- The number of days of a month, zero for a number that names no month. -/
def daysInMonth (year : Int) (month : Nat) : Nat :=
  match month with
  | 1 | 3 | 5 | 7 | 8 | 10 | 12 => 31
  | 4 | 6 | 9 | 11 => 30
  | 2 => if isLeapYear year then 29 else 28
  | _ => 0

/-- The year, month and day name a date. -/
def IsDate (year : Int) (month day : Nat) : Prop :=
  firstYear ≤ year ∧ year ≤ lastYear ∧ 1 ≤ day ∧ day ≤ daysInMonth year month

instance (year : Int) (month day : Nat) : Decidable (IsDate year month day) :=
  inferInstanceAs (Decidable (_ ∧ _ ∧ _ ∧ _))

/-- A calendar date. -/
structure Date where
  year : Int
  month : Nat
  day : Nat
  valid : IsDate year month day
deriving DecidableEq

/-- The date of a year, month and day, where there is one. -/
def Date.of? (year : Int) (month day : Nat) : Option Date :=
  if h : IsDate year month day then some ⟨year, month, day, h⟩ else none

/-- A second of a minute may have less than a billion nanoseconds, the last one twice as many. -/
def IsClock (hour minute second nanos : Nat) : Prop :=
  hour < 24 ∧ minute < 60 ∧ second < 60 ∧
    (nanos < 1000000000 ∨ second = 59 ∧ nanos < 2000000000)

instance (hour minute second nanos : Nat) : Decidable (IsClock hour minute second nanos) :=
  inferInstanceAs (Decidable (_ ∧ _ ∧ _ ∧ (_ ∨ _ ∧ _)))

/-- A time of day. -/
structure Clock where
  hour : Nat
  minute : Nat
  second : Nat
  nanos : Nat
  valid : IsClock hour minute second nanos
deriving DecidableEq

/-- The time of an hour, minute, second and nanosecond, where there is one. -/
def Clock.of? (hour minute second nanos : Nat) : Option Clock :=
  if h : IsClock hour minute second nanos then some ⟨hour, minute, second, nanos, h⟩ else none

/-- The first moment of a day. -/
def Clock.midnight : Clock :=
  ⟨0, 0, 0, 0, by decide⟩

/-- A time of day on a date. -/
structure Timestamp where
  date : Date
  clock : Clock
deriving DecidableEq

/-- Year, month and day of the day that is `days` after the first day of 1970.  Years are counted
from March, so that the leap day is the last of its year, in eras of four centuries. -/
def civilOfDays (days : Int) : Int × Int × Int :=
  let z := days + 719468
  let era := z / 146097
  let dayOfEra := z % 146097
  let yearOfEra := (dayOfEra - dayOfEra / 1460 + dayOfEra / 36524 - dayOfEra / 146096) / 365
  let dayOfYear := dayOfEra - (365 * yearOfEra + yearOfEra / 4 - yearOfEra / 100)
  let m := (5 * dayOfYear + 2) / 153
  let day := dayOfYear - (153 * m + 2) / 5 + 1
  let month := if m < 10 then m + 3 else m - 9
  (yearOfEra + era * 400 + (if month ≤ 2 then 1 else 0), month, day)

/-- The moment that is a number of seconds after the first moment of 1970. -/
def Timestamp.ofSeconds? (seconds : Int) : Option Timestamp :=
  let civil := civilOfDays (seconds / 86400)
  let rest := (seconds % 86400).toNat
  (Date.of? civil.1 civil.2.1.toNat civil.2.2.toNat).bind fun date =>
    (Clock.of? (rest / 3600) (rest / 60 % 60) (rest % 60) 0).map fun clock => ⟨date, clock⟩

end Registrar.Calendar
