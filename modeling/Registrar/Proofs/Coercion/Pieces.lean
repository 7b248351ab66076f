import Registrar.Proofs.Filter.Membership

/-!
# Coercion of pieces

Text with the separator is a list of its pieces, one more than there are separators, and each piece is
coerced as if it stood alone.  No piece holds a separator, and none is left with one when the blanks
around it are dropped, whatever the separator is: a blank, a sign, a point or a digit.  So a list that
comes of text holds numbers and text and no lists, and what is coerced once is not changed by coercion
any more.
-/

namespace Registrar

open Registrar.Text

section Pieces

variable {separator : Char} {cs : List Char}

/-- There is one piece more than there are separators. -/
theorem length_splitOn (separator : Char) (cs : List Char) :
    (cs.splitOn separator).length = cs.count separator + 1 := by
  induction cs with
  | nil => rfl
  | cons c cs ih =>
    rw [List.splitOn_cons_eq_if_modifyHead, List.count_cons]
    split
    · rw [List.length_cons, ih]
    · rw [List.length_modifyHead, ih, Nat.add_zero]

/-- No piece holds a separator. -/
theorem not_mem_of_mem_splitOn {piece : List Char} (mem : piece ∈ cs.splitOn separator) :
    separator ∉ piece := by
  induction cs generalizing piece with
  | nil =>
    rw [List.splitOn_nil, List.mem_singleton] at mem
    rw [mem]
    exact List.not_mem_nil
  | cons c cs ih =>
    rw [List.splitOn_cons_eq_if_modifyHead] at mem
    split at mem
    · rcases List.mem_cons.1 mem with rfl | mem
      · exact List.not_mem_nil
      · exact ih mem
    · next other =>
      obtain ⟨first, others, pieces⟩ := List.exists_cons_of_ne_nil (List.splitOn_ne_nil separator cs)
      rw [pieces] at mem ih
      rcases List.mem_cons.1 mem with rfl | mem
      · intro among
        rcases List.mem_cons.1 among with rfl | among
        · exact other (beq_self_eq_true _)
        · exact ih List.mem_cons_self among
      · exact ih (List.mem_cons_of_mem first mem)

end Pieces

namespace Coercer

variable {c : Coercer} {s : String}

/-- A piece as a text of its own holds no separator. -/
theorem piece_whole {piece : List Char} (mem : piece ∈ s.toList.splitOn c.separator) :
    c.separator ∉ (String.ofList piece).toList := by
  rw [String.toList_ofList]
  exact not_mem_of_mem_splitOn mem

/-- A piece is coerced as a single value, without the blanks around it. -/
theorem coerce_piece {piece : List Char} (mem : piece ∈ s.toList.splitOn c.separator) :
    c.coerce (.text (trim (String.ofList piece))) = single (String.ofList (trimChars piece)) := by
  rw [coerce_trim (piece_whole mem), String.toList_ofList]

/-- Text with the separator is coerced to the list of what its pieces are coerced to, without the blanks
around them. -/
theorem coerce_of_cut (cut : c.separator ∈ s.toList) :
    c.coerce (.text s) = .list ((s.toList.splitOn c.separator).map fun piece =>
      c.coerce (.text (trim (String.ofList piece)))) := by
  have pieces : c.coerce (.text s) = _ := coerceText_of_cut cut
  rw [pieces, splitWhere_eq_splitOnP]
  exact congrArg Value.list (List.map_congr_left fun piece mem => (coerce_piece mem).symm)

/-- Coercion that is applied to the pieces again, and again cuts them where it can, comes to the same:
there is nothing left to cut. -/
theorem eq_coerce_of_recursive {again : String → Value}
    (uncut : ∀ s : String, c.separator ∉ s.toList → again s = single s)
    (cut : ∀ s : String, c.separator ∈ s.toList → again s =
      .list ((s.toList.splitOn c.separator).map fun piece => again (trim (String.ofList piece))))
    (s : String) : again s = c.coerce (.text s) := by
  by_cases some : c.separator ∈ s.toList
  · rw [cut s some, coerce_of_cut some]
    refine congrArg Value.list (List.map_congr_left fun piece mem => ?_)
    have whole : c.separator ∉ (trim (String.ofList piece)).toList := not_mem_trim (piece_whole mem)
    rw [uncut _ whole]
    exact (coerceText_of_uncut whole).symm
  · rw [uncut s some]
    exact (coerceText_of_uncut some).symm

/-- What text is coerced to is not changed by coercion. -/
theorem coerce_coerce_text (c : Coercer) (s : String) :
    c.coerce (c.coerce (.text s)) = c.coerce (.text s) := by
  by_cases cut : c.separator ∈ s.toList
  · rw [coerce_of_cut cut]
    rfl
  · have alone : c.coerce (.text s) = single s := coerceText_of_uncut cut
    rw [alone]
    rcases single_cases s with ⟨n, same⟩ | ⟨x, same⟩ | same
    · rw [same]
      rfl
    · rw [same]
      rfl
    · rw [same, alone, same]

end Coercer

/-- Text is coerced to a list exactly if it holds the separator.  The list has one element more than the
text has separators, each element is what the piece at its place is coerced to without the blanks around
it, and every element is a whole number, a real or text.  Coercing a second time changes nothing, unless
it changes what stands in for missing values. -/
theorem coercion_is_flat_and_settles (c : Coercer) :
    (∀ s : String, (∃ items, c.coerce (.text s) = .list items) ↔ c.separator ∈ s.toList) ∧
    (∀ s : String, c.separator ∈ s.toList → ∃ items, c.coerce (.text s) = .list items ∧
      items.length = s.toList.count c.separator + 1 ∧
      items = (s.toList.splitOn c.separator).map (fun piece =>
        c.coerce (.text (trim (String.ofList piece)))) ∧
      ∀ item ∈ items, (∃ n, item = .integer n) ∨ (∃ x, item = .real x) ∨ ∃ u, item = .text u) ∧
    (c.coerce c.missing = c.missing → ∀ value, c.coerce (c.coerce value) = c.coerce value) := by
  refine ⟨fun s => ⟨fun ⟨items, list⟩ => ?_, fun cut => ⟨_, Coercer.coerce_of_cut cut⟩⟩,
    fun s cut => ⟨_, Coercer.coerce_of_cut cut, ?_, rfl, fun item mem => ?_⟩, fun fixed value => ?_⟩
  · refine Decidable.byContradiction fun uncut => ?_
    have alone : c.coerce (.text s) = Coercer.single s := Coercer.coerceText_of_uncut uncut
    rw [alone] at list
    rcases Coercer.single_cases s with ⟨n, same⟩ | ⟨x, same⟩ | same <;> rw [same] at list <;>
      cases list
  · rw [List.length_map]
    exact length_splitOn c.separator s.toList
  · obtain ⟨piece, among, rfl⟩ := List.mem_map.1 mem
    rw [Coercer.coerce_piece among]
    rcases Coercer.single_cases (String.ofList (trimChars piece)) with number | real | same
    · exact .inl number
    · exact .inr (.inl real)
    · exact .inr (.inr ⟨_, same⟩)
  · cases value with
    | null => exact fixed
    | text s => exact Coercer.coerce_coerce_text c s
    | _ => rfl

/-- Where blanks separate and missing values are called `none`, two blanks in a row have an empty piece
between them. -/
theorem coercion_is_flat_and_settles_words :
    ' ' ∈ "8 1.5  worf".toList ∧
    (⟨' ', .text "none"⟩ : Coercer).coerce (.text "none") = .text "none" ∧
    (∃ items, (⟨' ', .text "none"⟩ : Coercer).coerce (.text "8 1.5  worf") = .list items ∧
      items.length = 4 ∧ items[2]? = some (.text "") ∧ items[3]? = some (.text "worf")) ∧
    ∀ value, (⟨' ', .text "none"⟩ : Coercer).coerce ((⟨' ', .text "none"⟩ : Coercer).coerce value) =
      (⟨' ', .text "none"⟩ : Coercer).coerce value := by
  have cut : ' ' ∈ "8 1.5  worf".toList := by decide
  have fixed : (⟨' ', .text "none"⟩ : Coercer).coerce (.text "none") = .text "none" := by
    decide +kernel
  obtain ⟨-, lists, settles⟩ := coercion_is_flat_and_settles ⟨' ', .text "none"⟩
  obtain ⟨items, list, length, rfl, -⟩ := lists "8 1.5  worf" cut
  exact ⟨cut, fixed, ⟨_, list, length, by decide +kernel, by decide +kernel⟩, settles fixed⟩

end Registrar
