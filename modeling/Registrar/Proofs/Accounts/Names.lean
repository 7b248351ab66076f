import Registrar.Clause
import Registrar.Username

/-!
# Names in their normal form

A name in its normal form is made of small letters, digits and three signs, and begins with a letter.
So it is its own normal form, and as the value of a condition it is nothing but a name: it is no
number, and there is nothing in it that compares.
-/

namespace Registrar

open Registrar.Text Registrar.Number

section Characters

variable {c : Char}

/-- The characters of a name are ASCII characters from the hyphen on. -/
theorem range_of_isUsernameChar (valid : isUsernameChar c = true) :
    45 ≤ c.toNat ∧ c.toNat ≤ 122 ∧ c.toNat ≠ 60 ∧ c.toNat ≠ 61 ∧ c.toNat ≠ 62 ∧
      ¬(65 ≤ c.toNat ∧ c.toNat ≤ 90) := by
  simp only [isUsernameChar, isSmallLetter, isDigit, Bool.or_eq_true, Bool.and_eq_true,
    decide_eq_true_eq, beq_iff_eq] at valid
  rcases valid with (((⟨low, high⟩ | ⟨low, high⟩) | rfl) | rfl) | rfl
  · have least : 97 ≤ c.toNat := low
    have most : c.toNat ≤ 122 := high
    omega
  · have least : 48 ≤ c.toNat := low
    have most : c.toNat ≤ 57 := high
    omega
  all_goals decide

/-- The characters of a name are not blank. -/
theorem isBlank_of_isUsernameChar (valid : isUsernameChar c = true) : isBlank c = false := by
  obtain ⟨least, most, -⟩ := range_of_isUsernameChar valid
  simp only [isBlank, Bool.or_eq_false_iff, Bool.and_eq_false_iff, decide_eq_false_iff_not,
    beq_eq_false_iff_ne]
  omega

/-- The characters of a name are small. -/
theorem lowerChar_of_isUsernameChar (valid : isUsernameChar c = true) : lowerChar c = c := by
  obtain ⟨-, -, -, -, -, small⟩ := range_of_isUsernameChar valid
  exact if_neg fun capital => small capital

/-- The characters of a name compare nothing. -/
theorem noSign_of_isUsernameChar (valid : isUsernameChar c = true) :
    (c == '=' || c == '<' || c == '>') = false := by
  obtain ⟨-, -, less, equal, more, -⟩ := range_of_isUsernameChar valid
  have other (d : Char) (different : c.toNat ≠ d.toNat) : (c == d) = false :=
    beq_eq_false_iff_ne.2 fun same => different (congrArg Char.toNat same)
  rw [other '=' equal, other '<' less, other '>' more]
  rfl

end Characters

/-- What holds no blank does not hold a word between blanks. -/
theorem holdsWord_of_unblank (first second : Char) {cs : List Char}
    (unblank : ∀ c ∈ cs, isBlank c = false) : holdsWord first second cs = false := by
  induction cs with
  | nil => rfl
  | cons a cs ih =>
    have later := ih fun c mem => unblank c (List.mem_cons_of_mem a mem)
    match cs with
    | [] | [_] | [_, _] => rfl
    | b :: c :: d :: rest =>
      rw [holdsWord, later, unblank a List.mem_cons_self]
      rfl

section Names

variable {name given : String}

/-- A name is made of its characters, the first of which is a letter. -/
theorem chars_of_isUsername (valid : isUsername name = true) :
    ∃ c cs, name.toList = c :: cs ∧ isSmallLetter c = true ∧
      ∀ d ∈ name.toList, isUsernameChar d = true := by
  rw [isUsername] at valid
  cases chars : name.toList with
  | nil =>
    rw [chars] at valid
    cases valid
  | cons c cs =>
    rw [chars, isUsernameChars, Bool.and_eq_true, Bool.and_eq_true] at valid
    obtain ⟨⟨letter, -⟩, others⟩ := valid
    refine ⟨c, cs, rfl, letter, fun d mem => ?_⟩
    rcases List.mem_cons.1 mem with rfl | mem
    · rw [isUsernameChar, letter]
      rfl
    · exact List.all_eq_true.1 others d mem

/-- There are no blanks around a name. -/
theorem trimChars_username (valid : isUsername name = true) : trimChars name.toList = name.toList := by
  obtain ⟨-, -, -, -, all⟩ := chars_of_isUsername valid
  have kept : ∀ cs : List Char, (∀ c ∈ cs, isUsernameChar c = true) → cs.dropWhile isBlank = cs := by
    intro cs all
    cases cs with
    | nil => rfl
    | cons c cs =>
      rw [List.dropWhile_cons, isBlank_of_isUsernameChar (all c List.mem_cons_self)]
      rfl
  rw [trimChars, trimStart, kept _ all, trimEnd,
    kept _ fun c mem => all c (List.mem_reverse.1 mem), List.reverse_reverse]

/-- A name is in small letters. -/
theorem lowerAfter_username {cs : List Char} (all : ∀ c ∈ cs, isUsernameChar c = true)
    (before : List Char) : lowerAfter before cs = cs := by
  induction cs generalizing before with
  | nil => rfl
  | cons c cs ih =>
    obtain ⟨-, most, -⟩ := range_of_isUsernameChar (all c List.mem_cons_self)
    have ascii : c.toNat < 0x80 := by omega
    rw [lowerAfter, if_pos ascii, lowerChar_of_isUsernameChar (all c List.mem_cons_self),
      ih fun d mem => all d (List.mem_cons_of_mem c mem)]
    rfl

/-- A name in its normal form is its own normal form. -/
theorem normalizeUsername_of_isUsername (valid : isUsername name = true) :
    normalizeUsername name = .ok name := by
  obtain ⟨-, -, -, -, all⟩ := chars_of_isUsername valid
  have normal : lower (trim name) = name := by
    rw [lower, trim, String.toList_ofList, trimChars_username valid, lowerAfter_username all,
      String.ofList_toList]
  rw [normalizeUsername, normal]
  exact if_pos valid

/-- The normal form of a name is a name. -/
theorem isUsername_of_normalize (normal : normalizeUsername given = .ok name) :
    isUsername name = true := by
  rw [normalizeUsername] at normal
  split at normal
  · next valid =>
    rw [← Except.ok.inj normal]
    exact valid
  · cases normal

/-- A name is no whole number. -/
theorem integerText?_username (valid : isUsername name = true) : integerText? name = none := by
  obtain ⟨c, cs, chars, letter, -⟩ := chars_of_isUsername valid
  rw [isSmallLetter, Bool.and_eq_true, decide_eq_true_eq, decide_eq_true_eq] at letter
  have least : 97 ≤ c.toNat := letter.1
  have noDigit : isDigit c = false := by
    have above : ¬c.toNat ≤ 57 := by omega
    rw [isDigit, Bool.and_eq_false_iff]
    exact .inr (decide_eq_false above)
  have minus : c ≠ '-' := by
    rintro rfl
    exact absurd least (by decide)
  have plus : c ≠ '+' := by
    rintro rfl
    exact absurd least (by decide)
  have digits : unsigned? (c :: cs) = none := by
    rw [unsigned?, List.all_cons, noDigit]
    rfl
  rw [integerText?, trimChars_username valid, readInt64?, chars]
  have unsigned : signed? (c :: cs) = (unsigned? (c :: cs)).map fun n => (n : Int) := by
    rw [signed?]
    · exact fun ds same => minus (List.cons.inj same).1
    · exact fun ds same => plus (List.cons.inj same).1
  rw [unsigned, digits]
  rfl

/-- A name compares nothing. -/
theorem hasComparator_username (valid : isUsername name = true) : hasComparator name = false := by
  obtain ⟨-, -, -, -, all⟩ := chars_of_isUsername valid
  have unblank : ∀ c ∈ name.toList, isBlank c = false :=
    fun c mem => isBlank_of_isUsernameChar (all c mem)
  have signs : (name.toList.any fun c => c == '=' || c == '<' || c == '>') = false := by
    rw [List.any_eq_false]
    intro c mem
    rw [noSign_of_isUsernameChar (all c mem)]
    exact Bool.false_ne_true
  rw [hasComparator, signs, holdsWord_of_unblank _ _ unblank, holdsWord_of_unblank _ _ unblank]
  rfl

/-- As the value of a condition on a table, a name asks for the row of the name. -/
theorem ofScalar_username (valid : isUsername name = true) (table : String) :
    Condition.ofScalar table (.text name) = .ok ⟨table ++ "_val = ?", [.text name]⟩ := by
  rw [Condition.ofScalar, integerText?_username valid, hasComparator_username valid]
  rfl

end Names

end Registrar
