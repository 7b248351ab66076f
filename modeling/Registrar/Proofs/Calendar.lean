import Registrar.Calendar.Text
import Registrar.Sql.Cell

/-!
# Dates and timestamps read back

The text of a date is read as the date, and the text of a timestamp as the timestamp: also of years
with a sign, of fractions of a second and of the second that a minute may have more.  Neither text has
blanks around it, and neither stands for a number, since a hyphen stands behind the year.
-/

namespace Registrar

open Registrar.Text

section Digits

variable {ds rest : List Char}

/-- A digit is one of ten characters. -/
theorem range_of_isDigit {c : Char} (digit : isDigit c = true) : 48 ≤ c.toNat ∧ c.toNat ≤ 57 := by
  rw [isDigit, Bool.and_eq_true, decide_eq_true_eq, decide_eq_true_eq] at digit
  exact digit

/-- A digit is no blank. -/
theorem isBlank_of_isDigit {c : Char} (digit : isDigit c = true) : isBlank c = false := by
  obtain ⟨least, most⟩ := range_of_isDigit digit
  rw [isBlank]
  simp only [Bool.or_eq_false_iff, Bool.and_eq_false_iff, beq_eq_false_iff_ne, decide_eq_false_iff_not]
  omega

/-- Digits are read up to what is no digit. -/
theorem takeWhile_digits (digits : ∀ c ∈ ds, isDigit c = true) (ends : rest.takeWhile isDigit = []) :
    (ds ++ rest).takeWhile isDigit = ds := by
  rw [List.takeWhile_append_of_pos digits, ends, List.append_nil]

/-- What is no digit is left behind digits. -/
theorem dropWhile_digits (digits : ∀ c ∈ ds, isDigit c = true) (ends : rest.takeWhile isDigit = []) :
    (ds ++ rest).dropWhile isDigit = rest := by
  have whole := List.takeWhile_append_dropWhile (p := isDigit) (l := ds ++ rest)
  rw [takeWhile_digits digits ends] at whole
  exact List.append_cancel_left whole

/-- No blank starts a text that starts with digits. -/
theorem isBlank_of_head_digits (digits : ∀ c ∈ ds, isDigit c = true) (present : ds ≠ []) {c : Char}
    (first : c ∈ (ds ++ rest).head?) : isBlank c = false := by
  obtain ⟨d, ds, rfl⟩ := List.exists_cons_of_ne_nil present
  rw [← Option.mem_some_iff.1 first]
  exact isBlank_of_isDigit (digits d List.mem_cons_self)

/-- No blank ends a text that ends in digits. -/
theorem isBlank_of_last_digits {cs : List Char} (digits : ∀ c ∈ ds, isDigit c = true) (present : ds ≠ [])
    {c : Char} (last : c ∈ (cs ++ ds).getLast?) : isBlank c = false := by
  rw [List.getLast?_append, List.getLast?_eq_some_getLast present, Option.some_or] at last
  rw [← Option.mem_some_iff.1 last]
  exact isBlank_of_isDigit (digits _ (List.getLast_mem present))

end Digits

section Trimming

/-- Text keeps its start where this is no blank. -/
theorem trimStart_of_head {cs : List Char} (filled : ∀ c ∈ cs.head?, isBlank c = false) :
    trimStart cs = cs := by
  cases cs with
  | nil => rfl
  | cons c cs => rw [trimStart, List.dropWhile_cons, filled c rfl]; rfl

/-- Text is kept where no blank is at its start and none is at its end. -/
theorem trimChars_of_ends {cs : List Char} (starts : ∀ c ∈ cs.head?, isBlank c = false)
    (ends : ∀ c ∈ cs.getLast?, isBlank c = false) : trimChars cs = cs := by
  have kept : trimStart cs.reverse = cs.reverse := by
    refine trimStart_of_head fun c first => ends c ?_
    rwa [List.head?_reverse] at first
  rw [trimChars, trimStart_of_head starts, trimEnd]
  rw [trimStart] at kept
  rw [kept, List.reverse_reverse]

end Trimming

namespace Number

variable {width n : Nat}

/-- The digits of a number are read as the number. -/
theorem digitsValue_zeroPadded (width n : Nat) : digitsValue (zeroPadded width n) = n := by
  have same (ds : List Char) : digitsValue ds = Nat.ofDigitChars 10 ds 0 := rfl
  rw [same, zeroPadded, Nat.ofDigitChars_append, Nat.ofDigitChars_replicate_zero, Nat.mul_zero,
    natDigits, Nat.ofDigitChars_ten_toDigits]

/-- What a number is filled up with are digits. -/
theorem isDigit_of_mem_zeroPadded {c : Char} (mem : c ∈ zeroPadded width n) : isDigit c = true := by
  rcases List.mem_append.1 mem with zero | digit
  · rw [(List.mem_replicate.1 zero).2]
    decide
  · exact isDigit_of_mem_natDigits digit

/-- A number has digits. -/
theorem zeroPadded_ne_nil (width n : Nat) : zeroPadded width n ≠ [] := by
  have positive : 0 < (natDigits n).length := Nat.length_toDigits_pos
  exact List.append_ne_nil_of_right_ne_nil _ (List.length_pos_iff.1 positive)

/-- A number that is small enough has as many digits as it is filled up to. -/
theorem length_zeroPadded (positive : 0 < width) (below : n < Nat.pow 10 width) :
    (zeroPadded width n).length = width := by
  have few : (natDigits n).length ≤ width := (Nat.length_toDigits_le_iff (by decide) positive).2 below
  rw [zeroPadded, List.length_append, List.length_replicate]
  omega

end Number

namespace Calendar

open Registrar.Number

variable {rest : List Char}

section Parts

/-- Digits are read as their value. -/
theorem readDigits_append {most : Nat} {ds : List Char} (digits : ∀ c ∈ ds, isDigit c = true)
    (present : ds ≠ []) (few : ds.length ≤ most) (ends : rest.takeWhile isDigit = []) :
    readDigits most (ds ++ rest) = some (digitsValue ds, rest) := by
  rw [readDigits, takeWhile_digits digits ends, List.take_of_length_le few]
  simp [present]

/-- Two digits are read as a number. -/
theorem readPair_append {n : Nat} (below : n < 100) (ends : rest.takeWhile isDigit = []) :
    readPair (zeroPadded 2 n ++ rest) = some (n, rest) := by
  have digits : ∀ c ∈ zeroPadded 2 n, isDigit c = true := fun c => isDigit_of_mem_zeroPadded
  have kept : trimStart (zeroPadded 2 n ++ rest) = zeroPadded 2 n ++ rest :=
    trimStart_of_head fun c => isBlank_of_head_digits digits (zeroPadded_ne_nil 2 n)
  have few : (zeroPadded 2 n).length ≤ 2 := Nat.le_of_eq (length_zeroPadded (by decide) below)
  rw [readPair, kept, readDigits_append digits (zeroPadded_ne_nil 2 n) few ends, digitsValue_zeroPadded]

/-- A blank before two digits is passed over. -/
theorem readPair_space (cs : List Char) : readPair (' ' :: cs) = readPair cs :=
  rfl

/-- A year is read. -/
theorem readYear_append (year : Int) (ends : rest.takeWhile isDigit = []) :
    readYear (yearChars year ++ rest) = some (year, rest) := by
  have digits (n : Nat) : ∀ c ∈ zeroPadded 4 n, isDigit c = true := fun c => isDigit_of_mem_zeroPadded
  rw [yearChars]
  split
  · next range =>
    obtain ⟨c, cs, starts⟩ := List.exists_cons_of_ne_nil (zeroPadded_ne_nil 4 year.toNat)
    have digit : isDigit c = true := digits year.toNat c (by rw [starts]; exact List.mem_cons_self)
    have kept : trimStart (zeroPadded 4 year.toNat ++ rest) = zeroPadded 4 year.toNat ++ rest :=
      trimStart_of_head fun d => isBlank_of_head_digits (digits _) (zeroPadded_ne_nil _ _)
    have few : (zeroPadded 4 year.toNat).length ≤ 4 :=
      Nat.le_of_eq (length_zeroPadded (by decide) (show year.toNat < 10000 by omega))
    have value : ((year.toNat : Nat) : Int) = year := by omega
    have read : readDigits 4 (zeroPadded 4 year.toNat ++ rest) = some (year.toNat, rest) := by
      rw [readDigits_append (digits _) (zeroPadded_ne_nil _ _) few ends, digitsValue_zeroPadded]
    rw [readYear, kept]
    split
    · next sign =>
      rw [starts] at sign
      rw [(List.cons.inj sign).1] at digit
      cases digit
    · next sign =>
      rw [starts] at sign
      rw [(List.cons.inj sign).1] at digit
      cases digit
    · rw [read, Option.map_some, value]
  · next outside =>
    have read : readDigits (zeroPadded 4 year.natAbs ++ rest).length (zeroPadded 4 year.natAbs ++ rest) =
        some (year.natAbs, rest) := by
      rw [readDigits_append (digits _) (zeroPadded_ne_nil _ _) (by simp) ends, digitsValue_zeroPadded]
    split
    · next negative =>
      have value : -(year.natAbs : Int) = year := by omega
      rw [List.cons_append]
      show (readDigits _ _).map _ = _
      rw [read, Option.map_some, value]
    · next positive =>
      have value : (year.natAbs : Int) = year := by omega
      rw [List.cons_append]
      show (readDigits _ _).map _ = _
      rw [read, Option.map_some, value]

/-- Up to nine digits behind a point are read as a fraction of a second. -/
theorem readFraction_point {width n scale : Nat} (positive : 0 < width) (few : width ≤ 9)
    (below : n < Nat.pow 10 width) (scaled : Nat.pow 10 (9 - width) = scale) :
    readFraction ('.' :: zeroPadded width n) = some (n * scale) := by
  have length := length_zeroPadded positive below
  have digits : (zeroPadded width n).all isDigit = true :=
    List.all_eq_true.2 fun c => isDigit_of_mem_zeroPadded
  have present : (zeroPadded width n).isEmpty = false := by
    rw [List.isEmpty_eq_false_iff]
    exact zeroPadded_ne_nil width n
  rw [readFraction, digits, present, if_pos ⟨rfl, rfl, rfl⟩, List.take_of_length_le (by omega),
    fractionValue, digitsValue_zeroPadded, length, scaled]

/-- A fraction of a second is read. -/
theorem readFraction_fractionChars {nanos : Nat} (below : nanos < 1000000000) :
    readFraction (fractionChars nanos) = some nanos := by
  rw [fractionChars]
  split
  · next zero =>
    rw [zero]
    rfl
  · split
    · next thousandths =>
      have whole : nanos / 1000000 * 1000000 = nanos := by omega
      rw [← congrArg some whole]
      exact readFraction_point (by decide) (by decide) (show _ < 1000 by omega) rfl
    · split
      · next millionths =>
        have whole : nanos / 1000 * 1000 = nanos := by omega
        rw [← congrArg some whole]
        exact readFraction_point (by decide) (by decide) (show _ < 1000000 by omega) rfl
      · have read : readFraction ('.' :: zeroPadded 9 nanos) = some (nanos * 1) :=
          readFraction_point (by decide) (by decide) below rfl
        rw [read, Nat.mul_one]

/-- A fraction is nothing, or a point and digits. -/
theorem fractionChars_cases (nanos : Nat) :
    fractionChars nanos = [] ∨ ∃ width n, fractionChars nanos = '.' :: zeroPadded width n := by
  rw [fractionChars]
  split
  · exact .inl rfl
  · split
    · exact .inr ⟨_, _, rfl⟩
    · split
      · exact .inr ⟨_, _, rfl⟩
      · exact .inr ⟨_, _, rfl⟩

/-- No digit starts a fraction. -/
theorem takeWhile_fractionChars (nanos : Nat) : (fractionChars nanos).takeWhile isDigit = [] := by
  rcases fractionChars_cases nanos with nothing | ⟨width, n, point⟩
  · rw [nothing]
    rfl
  · rw [point]
    rfl

/-- No month has more than 31 days. -/
theorem daysInMonth_le (year : Int) (month : Nat) : daysInMonth year month ≤ 31 := by
  unfold daysInMonth
  split
  case h_12 => split <;> decide
  all_goals decide

/-- Only twelve months have days. -/
theorem month_le_of_days {year : Int} {month : Nat} (days : daysInMonth year month ≠ 0) :
    month ≤ 12 := by
  unfold daysInMonth at days
  split at days
  case h_13 => exact absurd rfl days
  all_goals decide

end Parts

/-- A date is read at the start of a text. -/
theorem readDateStart_append (d : Date) (ends : rest.takeWhile isDigit = []) :
    readDateStart (d.chars ++ rest) = some (d, rest) := by
  obtain ⟨-, -, first, last⟩ := d.valid
  have present : daysInMonth d.year d.month ≠ 0 := by omega
  have months := month_le_of_days present
  have days := daysInMonth_le d.year d.month
  have chars : d.chars ++ rest = yearChars d.year ++ ('-' :: (zeroPadded 2 d.month ++
      ('-' :: (zeroPadded 2 d.day ++ rest)))) := by
    simp [Date.chars]
  have known : Date.of? d.year d.month d.day = some d := dif_pos d.valid
  have mark {cs : List Char} : ('-' :: cs).takeWhile isDigit = [] := rfl
  rw [readDateStart, chars, readYear_append d.year mark, Option.bind_some]
  simp only [readMark, if_true, Option.bind_some, readPair_append (show d.month < 100 by omega) mark,
    readPair_append (show d.day < 100 by omega) ends, known, Option.map_some]

/-- The text of a date is read as the date. -/
theorem readDate?_chars (d : Date) : readDate? d.chars = some d := by
  have read : readDateStart (d.chars ++ []) = some (d, []) := readDateStart_append d rfl
  rw [List.append_nil] at read
  rw [readDate?, read]
  rfl

/-- The text of a time of day is read as the time, also behind a space. -/
theorem readClock?_chars (c : Clock) : readClock? (' ' :: c.chars) = some c := by
  obtain ⟨hours, minutes, seconds, nanos⟩ := c.valid
  have chars : c.chars = zeroPadded 2 c.hour ++ (':' :: (zeroPadded 2 c.minute ++
      (':' :: (zeroPadded 2 (c.second + c.nanos / 1000000000) ++
        fractionChars (c.nanos % 1000000000))))) := by
    simp [Clock.chars]
  have known : Clock.of? c.hour c.minute c.second c.nanos = some c := dif_pos c.valid
  have mark {cs : List Char} : (':' :: cs).takeWhile isDigit = [] := rfl
  rw [readClock?, readPair_space, chars]
  simp only [readPair_append (show c.hour < 100 by omega) mark, readMark, if_true, Option.bind_some,
    readPair_append (show c.minute < 100 by omega) mark,
    readPair_append (show c.second + c.nanos / 1000000000 < 100 by omega) (takeWhile_fractionChars _),
    readFraction_fractionChars (Nat.mod_lt c.nanos (by decide : 0 < 1000000000))]
  split
  · next extra =>
    have second : c.second = 59 := by omega
    have whole : c.nanos % 1000000000 + 1000000000 = c.nanos := by omega
    rw [whole, ← second]
    exact known
  · next plain =>
    have none : c.nanos / 1000000000 = 0 := by omega
    have whole : c.nanos % 1000000000 = c.nanos := by omega
    rw [none, whole]
    exact known

/-- The text of a timestamp is read as the timestamp. -/
theorem readTimestamp?_chars (t : Timestamp) : readTimestamp? (t.chars ' ') = some t := by
  have read : readDateStart (t.chars ' ') = some (t.date, ' ' :: t.clock.chars) :=
    readDateStart_append t.date rfl
  rw [readTimestamp?, read]
  simp only [Option.bind_some, readClock?_chars, Option.map_some]
  rfl

section Marks

/-- A year is written with digits, with a sign or without. -/
theorem exists_yearChars (year : Int) : ∃ sign ds, yearChars year = sign ++ ds ∧
    sign ∈ [[], ['-'], ['+']] ∧ ds ≠ [] ∧ ∀ c ∈ ds, isDigit c = true := by
  rw [yearChars]
  split
  · exact ⟨[], _, rfl, by decide, zeroPadded_ne_nil _ _, fun c => isDigit_of_mem_zeroPadded⟩
  · split
    · exact ⟨['-'], _, rfl, by decide, zeroPadded_ne_nil _ _, fun c => isDigit_of_mem_zeroPadded⟩
    · exact ⟨['+'], _, rfl, by decide, zeroPadded_ne_nil _ _, fun c => isDigit_of_mem_zeroPadded⟩

/-- No blank starts a year. -/
theorem isBlank_of_head_yearChars {year : Int} {c : Char} (first : c ∈ (yearChars year ++ rest).head?) :
    isBlank c = false := by
  obtain ⟨sign, ds, written, signs, present, digits⟩ := exists_yearChars year
  rw [written] at first
  simp only [List.mem_cons, List.not_mem_nil, or_false] at signs
  rcases signs with rfl | rfl | rfl
  · exact isBlank_of_head_digits digits present first
  · rw [← Option.mem_some_iff.1 first]
    decide
  · rw [← Option.mem_some_iff.1 first]
    decide

/-- A time of day ends in digits. -/
theorem exists_clockChars (c : Clock) : ∃ before ds, c.chars = before ++ ds ∧ ds ≠ [] ∧
    ∀ d ∈ ds, isDigit d = true := by
  rw [Clock.chars]
  rcases fractionChars_cases (c.nanos % 1000000000) with nothing | ⟨width, n, point⟩
  · rw [nothing, List.append_nil]
    refine ⟨zeroPadded 2 c.hour ++ ':' :: zeroPadded 2 c.minute ++ [':'],
      zeroPadded 2 (c.second + c.nanos / 1000000000), ?_, zeroPadded_ne_nil _ _,
      fun d => isDigit_of_mem_zeroPadded⟩
    simp
  · rw [point]
    refine ⟨zeroPadded 2 c.hour ++ ':' :: zeroPadded 2 c.minute ++ ':' ::
      zeroPadded 2 (c.second + c.nanos / 1000000000) ++ ['.'], zeroPadded width n, ?_,
      zeroPadded_ne_nil width n, fun d => isDigit_of_mem_zeroPadded⟩
    simp

/-- No blanks are around a date. -/
theorem trimChars_date (d : Date) : trimChars d.chars = d.chars := by
  refine trimChars_of_ends (fun c first => ?_) (fun c last => ?_)
  · rw [Date.chars, List.append_assoc] at first
    exact isBlank_of_head_yearChars first
  · have chars : d.chars = (yearChars d.year ++ '-' :: zeroPadded 2 d.month ++ ['-']) ++
        zeroPadded 2 d.day := by
      simp [Date.chars]
    rw [chars] at last
    exact isBlank_of_last_digits (fun d => isDigit_of_mem_zeroPadded) (zeroPadded_ne_nil _ _) last

/-- No blanks are around a timestamp. -/
theorem trimChars_timestamp (t : Timestamp) : trimChars (t.chars ' ') = t.chars ' ' := by
  refine trimChars_of_ends (fun c first => ?_) (fun c last => ?_)
  · rw [Timestamp.chars, Date.chars, List.append_assoc, List.append_assoc] at first
    exact isBlank_of_head_yearChars first
  · obtain ⟨before, ds, written, present, digits⟩ := exists_clockChars t.clock
    have chars : t.chars ' ' = (t.date.chars ++ ' ' :: before) ++ ds := by
      simp [Timestamp.chars, written]
    rw [chars] at last
    exact isBlank_of_last_digits digits present last

/-- A date is read of its text. -/
theorem readDate?_text (d : Date) : readDate? (trimChars d.text.toList) = some d := by
  have chars : d.text.toList = d.chars := String.toList_ofList
  rw [chars, trimChars_date, readDate?_chars]

/-- A timestamp is read of its text. -/
theorem readTimestamp?_text (t : Timestamp) : readTimestamp? (trimChars t.text.toList) = some t := by
  have chars : t.text.toList = t.chars ' ' := String.toList_ofList
  rw [chars, trimChars_timestamp, readTimestamp?_chars]

end Marks

section Numbers

open Registrar.Sql.Cell (isSpace number? numberStart startExponent)

/-- A digit is no white space and no sign. -/
theorem signless_of_isDigit {d : Char} (digit : isDigit d = true) (ds : List Char) :
    spanSign ((d :: ds).dropWhile isSpace) = (false, d :: ds) := by
  obtain ⟨least, most⟩ := range_of_isDigit digit
  have solid : isSpace d = false := by
    rw [isSpace, Bool.or_eq_false_iff, Bool.and_eq_false_iff, beq_eq_false_iff_ne,
      decide_eq_false_iff_not, decide_eq_false_iff_not]
    refine ⟨?_, by omega⟩
    rintro rfl
    exact absurd digit (by decide)
  rw [List.dropWhile_cons, solid]
  show spanSign (d :: ds) = _
  unfold spanSign
  split
  · next sign =>
    rw [(List.cons.inj sign).1] at digit
    cases digit
  · next sign =>
    rw [(List.cons.inj sign).1] at digit
    cases digit
  · rfl

/-- Digits that a hyphen stands behind stand for no number, with a sign before them or without. -/
theorem number?_of_hyphen {sign ds : List Char} (signs : sign ∈ [[], ['-'], ['+']]) (present : ds ≠ [])
    (digits : ∀ c ∈ ds, isDigit c = true) (behind : List Char) :
    number? (sign ++ ds ++ '-' :: behind) = none := by
  have ends : ('-' :: behind).takeWhile isDigit = [] := rfl
  have whole : spanDigits (ds ++ '-' :: behind) = (ds, '-' :: behind) := by
    rw [spanDigits, takeWhile_digits digits ends, dropWhile_digits digits ends]
  have signed : (spanSign ((sign ++ ds ++ '-' :: behind).dropWhile isSpace)).2 = ds ++ '-' :: behind := by
    simp only [List.mem_cons, List.not_mem_nil, or_false] at signs
    rcases signs with rfl | rfl | rfl
    · obtain ⟨d, others, rfl⟩ := List.exists_cons_of_ne_nil present
      exact congrArg Prod.snd (signless_of_isDigit (digits d List.mem_cons_self) _)
    · rfl
    · rfl
  have incomplete : (numberStart (sign ++ ds ++ '-' :: behind)).complete = false := by
    generalize sign ++ ds ++ '-' :: behind = cs at signed ⊢
    simp [numberStart, signed, whole, startExponent, isSpace]
  rw [number?, incomplete]
  rfl

/-- The text of a date stands for no number, whatever follows the date. -/
theorem number?_date (d : Date) (behind : List Char) : number? (d.chars ++ behind) = none := by
  obtain ⟨sign, ds, written, signs, present, digits⟩ := exists_yearChars d.year
  have chars : d.chars ++ behind = sign ++ ds ++ '-' ::
      (zeroPadded 2 d.month ++ '-' :: zeroPadded 2 d.day ++ behind) := by
    simp [Date.chars, written]
  rw [chars]
  exact number?_of_hyphen signs present digits _

end Numbers

end Calendar

end Registrar
