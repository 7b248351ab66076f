import Registrar.Value

/-!
# Coercion

Text that becomes a parameter turns into a number or a list where it reads as one.  Text with the
separator is a list of its pieces, each without the blanks around it; other text is a real if it
has a point and reads as one, and a whole number if it has no point and reads as one.  Whatever
reads as nothing is kept, so coercion never fails.
-/

namespace Registrar

open Registrar.Text Registrar.Number

/-- How text is coerced. -/
structure Coercer where
  /-- Cuts text into a list. -/
  separator : Char
  /-- Stands in for a missing value. -/
  missing : Value

namespace Coercer

/-- Cuts at commas and keeps missing values. -/
def standard : Coercer :=
  ⟨',', .null⟩

/-- Coerces text as a single value. -/
def single (s : String) : Value :=
  let cs := trimChars s.toList
  let number :=
    if cs.contains '.' then (readReal? cs).map Value.real else (readInt64? cs).map Value.integer
  number.getD (.text s)

/-- Text that is coerced as a single value is a number, or stays what it is. -/
theorem single_cases (s : String) :
    (∃ n, single s = .integer n) ∨ (∃ x, single s = .real x) ∨ single s = .text s := by
  simp only [single]
  split
  · cases readReal? (trimChars s.toList) with
    | none => exact .inr (.inr rfl)
    | some x => exact .inr (.inl ⟨x, rfl⟩)
  · cases readInt64? (trimChars s.toList) with
    | none => exact .inr (.inr rfl)
    | some n => exact .inl ⟨n, rfl⟩

/-- Coerces text. -/
def coerceText (c : Coercer) (s : String) : Value :=
  if s.toList.contains c.separator then
    .list ((splitWhere (· == c.separator) s.toList).map fun piece =>
      single (String.ofList (trimChars piece)))
  else single s

/-- Text without the separator is coerced as a single value. -/
theorem coerceText_of_uncut {c : Coercer} {s : String} (uncut : c.separator ∉ s.toList) :
    c.coerceText s = single s :=
  if_neg (mt List.contains_iff_mem.1 uncut)

/-- Text with the separator is coerced to the list of its pieces. -/
theorem coerceText_of_cut {c : Coercer} {s : String} (cut : c.separator ∈ s.toList) :
    c.coerceText s = .list ((splitWhere (· == c.separator) s.toList).map fun piece =>
      single (String.ofList (trimChars piece))) :=
  if_pos (List.contains_iff_mem.2 cut)

/-- Coerces a value. -/
def coerce (c : Coercer) : Value → Value
  | .null => c.missing
  | .text s => c.coerceText s
  | value => value

end Coercer

/-- Coerces a value in the standard way. -/
def Value.coerced (value : Value) : Value :=
  Coercer.standard.coerce value

end Registrar
