import Mathlib.Data.List.TFAE
import Mathlib.Data.Nat.Digits.Defs
import Registrar.Proofs.Calendar
import Registrar.Proofs.Filter.Membership
import Registrar.Proofs.Filter.Weaving
import Registrar.Record

/-!
# Whole numbers in text

A whole number is written as at most one sign and one or more digits, each of which counts by its
place.  Three readers take whole numbers from text, with blanks around them or without: coercion, a bare
value of a filter, and an integer field of a record.  They take the same texts as the same numbers.  What
does not fit into 64 bits is a number to none of them, though it is written like one.
-/

namespace Registrar

open Registrar.Text Registrar.Number

namespace Number

section Grammar

variable {ds cs : List Char} {m : Int}

/-- The number that digits stand for, each by its place. -/
def placeValue (ds : List Char) : Nat :=
  Nat.ofDigits 10 (ds.reverse.map digitValue)

/-- Some characters write a whole number: at most one sign, and one or more digits. -/
inductive Writes : List Char → Int → Prop
  | plain {ds : List Char} (present : ds ≠ []) (digits : ∀ c ∈ ds, isDigit c = true) :
    Writes ds (placeValue ds)
  | plus {ds : List Char} (present : ds ≠ []) (digits : ∀ c ∈ ds, isDigit c = true) :
    Writes ('+' :: ds) (placeValue ds)
  | minus {ds : List Char} (present : ds ≠ []) (digits : ∀ c ∈ ds, isDigit c = true) :
    Writes ('-' :: ds) (-(placeValue ds))

/-- Digits are read by their places. -/
theorem digitsValue_eq_placeValue (ds : List Char) : digitsValue ds = placeValue ds := by
  rw [placeValue, Nat.ofDigits_eq_foldr, List.foldr_map, List.foldr_reverse, digitsValue]
  simp only [Nat.cast_id, Nat.add_comm]

/-- Digits are read if there are some and nothing else. -/
theorem unsigned?_eq_some_iff {n : Nat} :
    unsigned? ds = some n ↔ ds ≠ [] ∧ (∀ c ∈ ds, isDigit c = true) ∧ placeValue ds = n := by
  rw [← digitsValue_eq_placeValue, unsigned?]
  split
  · next refused =>
    refine iff_of_false nofun fun ⟨present, digits, _⟩ => ?_
    rw [List.all_eq_true.2 digits] at refused
    simp [present] at refused
  · next taken =>
    rw [Bool.not_eq_true, Bool.or_eq_false_iff, Bool.not_eq_false', List.isEmpty_eq_false_iff,
      List.all_eq_true] at taken
    rw [Option.some_inj, and_iff_right taken.1, and_iff_right taken.2]

/-- Digits are read as a whole number, with a sign in front that changes it. -/
theorem map_unsigned?_eq_some_iff {sign : Int → Int} :
    (do let n ← unsigned? ds; pure (n : Int)).map sign = some m ↔
      ds ≠ [] ∧ (∀ c ∈ ds, isDigit c = true) ∧ sign (placeValue ds) = m := by
  simp only [bind, pure, Option.map_eq_some_iff, Option.bind_eq_some_iff, unsigned?_eq_some_iff,
    Option.some_inj]
  constructor
  · rintro ⟨_, ⟨n, ⟨present, digits, rfl⟩, rfl⟩, same⟩
    exact ⟨present, digits, same⟩
  · rintro ⟨present, digits, same⟩
    exact ⟨_, ⟨_, ⟨present, digits, rfl⟩, rfl⟩, same⟩

/-- Whole numbers are read as they are written. -/
theorem signed?_eq_some_iff : signed? cs = some m ↔ Writes cs m := by
  constructor
  · intro read
    unfold signed? at read
    split at read <;> obtain ⟨present, digits, rfl⟩ := map_unsigned?_eq_some_iff.1 read
    · exact .minus present digits
    · exact .plus present digits
    · exact .plain present digits
  · intro written
    cases written with
    | minus present digits => exact map_unsigned?_eq_some_iff.2 ⟨present, digits, rfl⟩
    | plus present digits => exact map_unsigned?_eq_some_iff.2 ⟨present, digits, rfl⟩
    | plain present digits =>
      unfold signed?
      split
      · exact absurd (digits '-' List.mem_cons_self) (by decide)
      · exact absurd (digits '+' List.mem_cons_self) (by decide)
      · exact map_unsigned?_eq_some_iff.2 ⟨present, digits, rfl⟩

/-- A whole number of 64 bits is read where it is written. -/
theorem readInt64?_eq_some_iff {n : Int64} : readInt64? cs = some n ↔ Writes cs n.toInt := by
  simp only [readInt64?, Option.bind_eq_some_iff, signed?_eq_some_iff, int64?_eq_some_iff,
    exists_eq_right']

/-- A whole number that is written in other than 64 bits is not read. -/
theorem readInt64?_of_beyond (written : Writes cs m)
    (beyond : m < Int64.minValue.toInt ∨ Int64.maxValue.toInt < m) : readInt64? cs = none := by
  rw [readInt64?, signed?_eq_some_iff.2 written]
  exact int64?_eq_none_iff.2 beyond

/-- A whole number is written in digits and signs. -/
theorem Writes.isDigit_or_sign (written : Writes cs m) {c : Char} (mem : c ∈ cs) :
    isDigit c = true ∨ c = '+' ∨ c = '-' := by
  cases written with
  | plain present digits => exact .inl (digits c mem)
  | plus present digits =>
    rcases List.mem_cons.1 mem with rfl | mem
    · exact .inr (.inl rfl)
    · exact .inl (digits c mem)
  | minus present digits =>
    rcases List.mem_cons.1 mem with rfl | mem
    · exact .inr (.inr rfl)
    · exact .inl (digits c mem)

/-- What is no blank, no digit and no sign is not in a text that writes a whole number between
blanks. -/
theorem Writes.not_mem (written : Writes (trimChars cs) m) {c : Char} (visible : isBlank c = false)
    (noDigit : isDigit c = false) (noSign : c ≠ '+' ∧ c ≠ '-') : c ∉ cs := by
  obtain ⟨before, after, parts, front, back⟩ := exists_blanks cs
  rw [parts, List.mem_append, List.mem_append]
  rintro ((mem | mem) | mem)
  · rw [front c mem] at visible
    cases visible
  · rcases written.isDigit_or_sign mem with digit | plus | minus
    · rw [digit] at noDigit
      cases noDigit
    · exact noSign.1 plus
    · exact noSign.2 minus
  · rw [back c mem] at visible
    cases visible

end Grammar

end Number

section Readers

variable {s table : String} {m : Int} {n : Int64}

/-- Whole numbers are read between blanks. -/
theorem integerText?_eq_some_iff : integerText? s = some n ↔ Writes (trimChars s.toList) n.toInt :=
  readInt64?_eq_some_iff

/-- A text that writes a whole number compares nothing. -/
theorem hasComparator_of_writes (written : Writes (trimChars s.toList) m) :
    hasComparator s = false := by
  have signs : (s.toList.any fun c => c == '=' || c == '<' || c == '>') = false := by
    rw [List.any_eq_false]
    intro c mem sign
    simp only [Bool.or_eq_true, beq_iff_eq] at sign
    obtain (rfl | rfl) | rfl := sign <;>
      exact written.not_mem (by decide) (by decide) (by decide) mem
  have words (second : Char) : holdsWord 'I' second s.toList = false := by
    have absent : 'I' ∉ s.toList := written.not_mem (by decide) (by decide) (by decide)
    rw [← Bool.not_eq_true]
    exact fun holds => absent (Keeps.mem_of_holdsWord holds)
  rw [hasComparator, signs, words, words]
  rfl

/-- Text that writes a whole number is coerced to it if it fits into 64 bits, and is kept if not. -/
theorem coerced_of_writes (written : Writes (trimChars s.toList) m) :
    (Value.text s).coerced = ((integerText? s).map .integer).getD (.text s) := by
  have uncut : ',' ∉ s.toList := written.not_mem (by decide) (by decide) (by decide)
  have pointless : ¬(trimChars s.toList).contains '.' = true := by
    rw [List.contains_iff_mem]
    intro mem
    rcases written.isDigit_or_sign mem with digit | plus | minus
    · exact absurd digit (by decide)
    · exact absurd plus (by decide)
    · exact absurd minus (by decide)
  rw [coerced_of_no_comma uncut, Coercer.single, if_neg pointless, integerText?]

/-- Text is coerced to a whole number exactly if it writes it. -/
theorem coerced_eq_integer_iff :
    (Value.text s).coerced = .integer n ↔ Writes (trimChars s.toList) n.toInt := by
  constructor
  · intro coerced
    by_cases cut : ',' ∈ s.toList
    · rw [coerced_of_comma cut] at coerced
      cases coerced
    · rw [coerced_of_no_comma cut, Coercer.single] at coerced
      split at coerced
      · cases real : readReal? (trimChars s.toList) <;> rw [real] at coerced <;> cases coerced
      · cases whole : readInt64? (trimChars s.toList) with
        | none =>
          rw [whole] at coerced
          cases coerced
        | some k =>
          rw [whole] at coerced
          obtain rfl := Value.integer.inj coerced
          exact readInt64?_eq_some_iff.1 whole
  · intro written
    rw [coerced_of_writes written, integerText?_eq_some_iff.2 written]
    rfl

/-- Text as a bare value asks for the row of an id exactly if it writes the id. -/
theorem ofScalar_eq_id_iff :
    Condition.ofScalar table (.text s) = .ok ⟨table ++ "_id = ?", [.integer n]⟩ ↔
      Writes (trimChars s.toList) n.toInt := by
  rw [← integerText?_eq_some_iff, Condition.ofScalar]
  cases integerText? s with
  | some k =>
    rw [Option.some_inj]
    constructor
    · intro same
      have parameters := congrArg Clause.parameters (Except.ok.inj same)
      exact Value.integer.inj (List.cons.inj parameters).1
    · rintro rfl
      rfl
  | none =>
    refine iff_of_false (fun same => ?_) (Option.some_ne_none n).symm
    dsimp only at same
    split at same <;> cases congrArg Clause.parameters (Except.ok.inj same)

/-- Text is read as a whole number by an integer field exactly if it writes it. -/
theorem read_eq_integer_iff {optional : Bool} :
    FieldKind.integer.read optional (.text s) = .ok (.integer n) ↔
      Writes (trimChars s.toList) n.toInt := by
  have present : ¬(optional && (Value.text s).isNull) = true := by
    cases optional <;> exact Bool.false_ne_true
  rw [← integerText?_eq_some_iff, FieldKind.read, if_neg present, FieldKind.read?]
  cases integerText? s with
  | some k =>
    rw [Option.some_inj]
    exact ⟨fun same => Value.integer.inj (Except.ok.inj same), fun same => same ▸ rfl⟩
  | none =>
    refine iff_of_false (fun same => ?_) (Option.some_ne_none n).symm
    cases same

end Readers

/-- Coercion, bare values of filters and integer fields read the same texts as the same whole numbers:
those that write, between blanks, at most one sign and one or more digits of a number of 64 bits.  A
number that is written but does not fit is never cut to 64 bits: coercion keeps its text, a filter takes
the text as the name of a row, and a field refuses it. -/
theorem whole_numbers_are_read_alike (s table : String) (conjunction : Conjunction) (optional : Bool) :
    (∀ n : Int64,
      [Writes (trim s).toList n.toInt,
        (Value.text s).coerced = .integer n,
        (Condition.scalar (.text s)).compile table conjunction =
          .ok ⟨table ++ "_id = ?", [.integer n]⟩,
        FieldKind.integer.read optional (.text s) = .ok (.integer n)].TFAE) ∧
    ∀ m : Int, Writes (trim s).toList m → (m < Int64.minValue.toInt ∨ Int64.maxValue.toInt < m) →
      (Value.text s).coerced = .text s ∧
      (Condition.scalar (.text s)).compile table conjunction =
        .ok ⟨table ++ "_val = ?", [.text s]⟩ ∧
      FieldKind.integer.read optional (.text s) =
        .error (.rejected (.wrongKind .integer (.text s))) := by
  have trimmed : (trim s).toList = trimChars s.toList := String.toList_ofList
  rw [trimmed]
  constructor
  · intro n
    tfae_have 2 ↔ 1 := coerced_eq_integer_iff
    tfae_have 3 ↔ 1 := ofScalar_eq_id_iff
    tfae_have 4 ↔ 1 := read_eq_integer_iff
    tfae_finish
  · intro m written beyond
    have unread : integerText? s = none := readInt64?_of_beyond written beyond
    refine ⟨?_, ?_, ?_⟩
    · rw [coerced_of_writes written, unread]
      rfl
    · rw [Condition.compile, Condition.ofScalar, unread, hasComparator_of_writes written]
      rfl
    · cases optional <;> simp [FieldKind.read, FieldKind.read?, Value.isNull, unread]

/-- The least number of 64 bits is read between a tab and an ideographic space, and the number after the
greatest is read nowhere: it is the name of a ship. -/
theorem whole_numbers_are_read_alike_edges :
    Writes (trim "\t-09223372036854775808\u3000").toList Int64.minValue.toInt ∧
    (Value.text "\t-09223372036854775808\u3000").coerced = .integer Int64.minValue ∧
    (Condition.scalar (.text "\t-09223372036854775808\u3000")).compile "ships" .and =
      .ok ⟨"ships" ++ "_id = ?", [.integer Int64.minValue]⟩ ∧
    FieldKind.integer.read false (.text "\t-09223372036854775808\u3000") =
      .ok (.integer Int64.minValue) ∧
    Writes (trim "+9223372036854775808 ").toList 9223372036854775808 ∧
    Int64.maxValue.toInt < 9223372036854775808 ∧
    (Value.text "+9223372036854775808 ").coerced = .text "+9223372036854775808 " ∧
    (Condition.scalar (.text "+9223372036854775808 ")).compile "ships" .or =
      .ok ⟨"ships" ++ "_val = ?", [.text "+9223372036854775808 "]⟩ ∧
    FieldKind.integer.read true (.text "+9223372036854775808 ") =
      .error (.rejected (.wrongKind .integer (.text "+9223372036854775808 "))) := by
  have least : Writes (trim "\t-09223372036854775808\u3000").toList Int64.minValue.toInt :=
    signed?_eq_some_iff.1 (by decide)
  have beyond : Writes (trim "+9223372036854775808 ").toList 9223372036854775808 :=
    signed?_eq_some_iff.1 (by decide)
  have above : Int64.maxValue.toInt < 9223372036854775808 := by decide
  have alike := (whole_numbers_are_read_alike "\t-09223372036854775808\u3000" "ships" .and false).1
    Int64.minValue
  have refused := (whole_numbers_are_read_alike "+9223372036854775808 " "ships" .or true).2 _ beyond
    (.inr above)
  exact ⟨least, (alike.out 0 1).1 least, (alike.out 0 2).1 least, (alike.out 0 3).1 least, beyond, above,
    refused⟩

end Registrar
