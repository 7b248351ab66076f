import Registrar.Proofs.Coercion.Pieces
import Registrar.Proofs.Coercion.WholeNumbers

/-!
# Lists read back from their text

A list that is shown puts commas between its elements, and coercion cuts text at commas.  So coercion
reads back a list of two elements or more, if its elements are whole numbers and texts that have no comma
in them, no blanks around them and are not read as numbers themselves.  Blanks around the commas change
nothing, since pieces are coerced without the blanks around them.
-/

namespace Registrar

open Registrar.Text Registrar.Number

namespace Number

/-- The digits of a number count as the number. -/
theorem placeValue_natDigits (n : Nat) : placeValue (natDigits n) = n := by
  rw [← digitsValue_eq_placeValue]
  exact Nat.ofDigitChars_ten_toDigits

/-- The text of a whole number writes the number. -/
theorem writes_intText (m : Int) : Writes (intText m).toList m := by
  have present : natDigits m.natAbs ≠ [] := List.length_pos_iff.1 Nat.length_toDigits_pos
  have digits : ∀ c ∈ natDigits m.natAbs, isDigit c = true := fun _ => isDigit_of_mem_natDigits
  rw [intText, String.toList_ofList]
  split
  · next negative =>
    have written := Writes.minus present digits
    rwa [placeValue_natDigits, Int.ofNat_natAbs_of_nonpos (Int.le_of_lt negative), Int.neg_neg] at written
  · next natural =>
    have written := Writes.plain present digits
    rwa [placeValue_natDigits, Int.natAbs_of_nonneg (Int.not_lt.1 natural)] at written

/-- There are no blanks in what writes a whole number. -/
theorem Writes.trimChars_eq {cs : List Char} {m : Int} (written : Writes cs m) : trimChars cs = cs := by
  have visible : ∀ c ∈ cs, isBlank c = false := by
    intro c mem
    rcases written.isDigit_or_sign mem with digit | rfl | rfl
    · exact isBlank_of_isDigit digit
    · decide
    · decide
  exact trimChars_of_ends (fun c first => visible c (List.mem_of_mem_head? first))
    fun c last => visible c (List.mem_of_mem_getLast? last)

end Number

/-- The values that are read back when a list shows them: whole numbers, and texts without a comma in
them and without blanks around them that are not read as a number, neither with a point nor without. -/
inductive Value.IsPlain : Value → Prop
  | integer (n : Int64) : IsPlain (.integer n)
  | text {s : String} (whole : ',' ∉ s.toList) (starts : ∀ c ∈ s.toList.head?, isBlank c = false)
    (ends : ∀ c ∈ s.toList.getLast?, isBlank c = false)
    (noReal : '.' ∈ s.toList → readReal? s.toList = none)
    (noInteger : '.' ∉ s.toList → readInt64? s.toList = none) : IsPlain (.text s)

namespace Value.IsPlain

variable {value : Value}

/-- A plain value is shown without a comma. -/
theorem whole (plain : value.IsPlain) : ',' ∉ value.display.toList := by
  cases plain with
  | integer n =>
    have written : Writes (trimChars (intText n.toInt).toList) n.toInt := by
      rw [(writes_intText n.toInt).trimChars_eq]
      exact writes_intText n.toInt
    exact written.not_mem (by decide) (by decide) (by decide)
  | text whole => exact whole

/-- A plain value is shown without blanks around it, and what is shown is coerced to the value. -/
theorem single_display (plain : value.IsPlain) :
    Coercer.single (String.ofList (trimChars value.display.toList)) = value := by
  cases plain with
  | integer n =>
    have written := writes_intText n.toInt
    show Coercer.single (String.ofList (trimChars (intText n.toInt).toList)) = _
    have coerced : (Value.text (intText n.toInt)).coerced = .integer n := by
      rw [coerced_eq_integer_iff, written.trimChars_eq]
      exact written
    rw [written.trimChars_eq, String.ofList_toList, ← coerced]
    exact (coerced_of_no_comma (IsPlain.integer n).whole).symm
  | @text s whole starts ends noReal noInteger =>
    have trimmed : trimChars s.toList = s.toList := trimChars_of_ends starts ends
    show Coercer.single (String.ofList (trimChars s.toList)) = _
    rw [trimmed, String.ofList_toList, Coercer.single, trimmed]
    split
    · next point =>
      rw [noReal (List.contains_iff_mem.1 point)]
      rfl
    · next pointless =>
      rw [noInteger fun point => pointless (List.contains_iff_mem.2 point)]
      rfl

end Value.IsPlain

section Enumerating

/-- Words one after another, with a comma between neighbours and any blanks around each comma. -/
inductive Enumerates : List String → List Char → Prop
  | last (word : String) : Enumerates [word] word.toList
  | more (word : String) {words : List String} (before after : List Char) {rest : List Char}
    (front : ∀ c ∈ before, isBlank c = true) (back : ∀ c ∈ after, isBlank c = true)
    (others : Enumerates words rest) :
    Enumerates (word :: words) (word.toList ++ before ++ ',' :: (after ++ rest))

/-- Words are enumerated with commas alone between them. -/
theorem enumerates_intercalate {words : List String} (some : words ≠ []) :
    Enumerates words (",".intercalate words).toList := by
  induction words with
  | nil => exact absurd rfl some
  | cons word words ih =>
    cases words with
    | nil =>
      rw [String.intercalate_singleton]
      exact .last word
    | cons next words =>
      have others := Enumerates.more word [] [] nofun nofun (ih (List.cons_ne_nil next words))
      rw [String.intercalate_cons_cons, String.toList_append, String.toList_append]
      simpa using others

/-- Two words or more have a comma between them. -/
theorem Enumerates.comma {words : List String} {cs : List Char} (enumerated : Enumerates words cs)
    (several : 2 ≤ words.length) : ',' ∈ cs := by
  cases enumerated with
  | last word => exact absurd several (by simp)
  | more => simp

/-- Blanks are no commas. -/
theorem comma_of_blanks {blanks : List Char} (all : ∀ c ∈ blanks, isBlank c = true) : ',' ∉ blanks :=
  fun mem => absurd (all ',' mem) (by decide)

/-- Cutting at the commas gives the words with blanks around them.  What is left of each without these
blanks is what is left of its word. -/
theorem Enumerates.pieces {words : List String} {cs : List Char} (enumerated : Enumerates words cs)
    (whole : ∀ word ∈ words, ',' ∉ word.toList) (lead : List Char)
    (blank : ∀ c ∈ lead, isBlank c = true) :
    ((lead ++ cs).splitOn ',').map trimChars = words.map fun word => trimChars word.toList := by
  induction enumerated generalizing lead with
  | last word =>
    have uncut : ',' ∉ lead ++ word.toList :=
      List.not_mem_append (comma_of_blanks blank) (whole word List.mem_cons_self)
    have trimmed : trimChars (lead ++ word.toList ++ []) = trimChars word.toList :=
      trimChars_padded blank (List.forall_mem_nil _) word.toList
    rw [List.append_nil] at trimmed
    rw [List.splitOn_eq_singleton uncut, List.map_singleton, trimmed, List.map_singleton]
  | @more word words before after rest front back others ih =>
    -- the blanks behind the comma lead the next piece
    have parts : lead ++ (word.toList ++ before ++ ',' :: (after ++ rest)) =
        (lead ++ word.toList ++ before) ++ ',' :: (after ++ rest) := by simp
    have uncut : ',' ∉ lead ++ word.toList ++ before :=
      List.not_mem_append (List.not_mem_append (comma_of_blanks blank) (whole word List.mem_cons_self))
        (comma_of_blanks front)
    rw [parts, List.splitOn_append_cons_self_of_not_mem uncut, List.map_cons, List.map_cons,
      trimChars_padded blank front,
      ih (fun other mem => whole other (List.mem_cons_of_mem word mem)) after back]

end Enumerating

/-- Plain values that are enumerated in a text are what the text is coerced to. -/
theorem coerced_of_enumerates {items : List Value} {s : String} (several : 2 ≤ items.length)
    (plain : ∀ item ∈ items, item.IsPlain)
    (enumerated : Enumerates (items.map Value.display) s.toList) :
    (Value.text s).coerced = .list items := by
  have whole : ∀ word ∈ items.map Value.display, ',' ∉ word.toList := by
    intro word mem
    obtain ⟨item, among, rfl⟩ := List.mem_map.1 mem
    exact (plain item among).whole
  have pieces : (s.toList.splitOn ',').map trimChars =
      items.map fun item => trimChars item.display.toList := by
    have trimmed : (s.toList.splitOn ',').map trimChars = _ := enumerated.pieces whole [] nofun
    simpa only [List.map_map, Function.comp_def] using trimmed
  have same : (s.toList.splitOn ',').map (fun piece =>
      Coercer.single (String.ofList (trimChars piece))) = items :=
    calc
      _ = ((s.toList.splitOn ',').map trimChars).map fun cs =>
          Coercer.single (String.ofList cs) := by simp only [List.map_map, Function.comp_def]
      _ = items.map fun item =>
          Coercer.single (String.ofList (trimChars item.display.toList)) := by
        simp only [pieces, List.map_map, Function.comp_def]
      _ = items.map id := List.map_congr_left fun item mem => (plain item mem).single_display
      _ = items := List.map_id items
  rw [coerced_of_comma (enumerated.comma (by simpa using several)), splitWhere_eq_splitOnP]
  exact congrArg Value.list same

/-- The texts of several values are the texts of each. -/
theorem Value.displayAll_eq (items : List Value) : displayAll items = items.map display := by
  induction items with
  | nil => rfl
  | cons item items ih => rw [displayAll, ih, List.map_cons]

/-- A list of two or more plain values, whole numbers of 64 bits and texts that neither look like
several values nor like a number, is what its text is coerced to, and what every text is coerced to that
enumerates the values with any blanks around the commas. -/
theorem shown_list_is_read_back {items : List Value} (several : 2 ≤ items.length)
    (plain : ∀ item ∈ items, item.IsPlain) :
    (Value.text (Value.list items).display).coerced = .list items ∧
    ∀ s : String, Enumerates (items.map Value.display) s.toList →
      (Value.text s).coerced = .list items := by
  have some : items.map Value.display ≠ [] := by
    intro none
    rw [List.map_eq_nil_iff.1 none] at several
    exact absurd several (by decide)
  refine ⟨coerced_of_enumerates several plain ?_, fun s => coerced_of_enumerates several plain⟩
  rw [Value.display, Value.displayAll_eq]
  exact enumerates_intercalate some

/-- Between the least and the greatest number an empty text and a text with a blank in it are read
back. -/
theorem shown_list_is_read_back_extremes :
    (∀ item ∈ [.integer Int64.minValue, .text "", .text "a b", .integer Int64.maxValue],
      Value.IsPlain item) ∧
    (Value.text "-9223372036854775808,,a b,9223372036854775807").coerced =
      .list [.integer Int64.minValue, .text "", .text "a b", .integer Int64.maxValue] ∧
    (Value.text "-9223372036854775808 ,\t,a b\u3000, 9223372036854775807").coerced =
      .list [.integer Int64.minValue, .text "", .text "a b", .integer Int64.maxValue] := by
  have plain : ∀ item ∈ [.integer Int64.minValue, .text "", .text "a b", .integer Int64.maxValue],
      Value.IsPlain item := by
    simp only [List.forall_mem_cons]
    exact ⟨.integer _, .text (by decide) nofun nofun (by decide) (by decide),
      .text (by decide) (by rintro _ ⟨⟩; rfl) (by rintro _ ⟨⟩; rfl) (by decide) (by decide),
      .integer _, nofun⟩
  obtain ⟨shown, spread⟩ := shown_list_is_read_back (by decide) plain
  refine ⟨plain, shown, spread _ ?_⟩
  have blank {c : Char} (one : isBlank c = true) : ∀ b ∈ [c], isBlank b = true :=
    List.forall_mem_singleton.2 one
  exact .more _ [' '] ['\t'] (blank rfl) (blank rfl) <| .more _ [] [] nofun nofun <|
    .more _ ['\u3000'] [' '] (blank rfl) (blank rfl) <| .last _

end Registrar
