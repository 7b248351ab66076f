import Registrar.Proofs.Sql.Scanning

/-!
# Breaking off

What a token or a gap is does not depend on what breaks it off.  A text is followed by a blank, a
comma or a closing parenthesis when it stands in a statement; its last token or comment is closed if
it does not take a blank that stands behind it, and then it takes nothing else that breaks it off
(`shape_append`).  The lemmas follow the kinds of tokens: numbers, quoted texts, texts of bytes,
comments and signs.
-/

namespace Registrar.Sql.Token

open Registrar.Text

section Breaking

variable {rest : List Char}

/-- The characters that end texts of bytes go on with none. -/
theorem isHexDigit_of_breaker : ∀ b ∈ breakers, isHexDigit b = false :=
  forall_of_all (by decide)

/-- What goes on with characters of a kind stops at a character that breaks it off, if that is of
another kind. -/
theorem takeWhile_append_of_breaks {p : Char → Bool} (others : ∀ b ∈ breakers, p b = false)
    (cs : List Char) (breaks : Breaks rest) : (cs ++ rest).takeWhile p = cs.takeWhile p :=
  takeWhile_append_of_stops cs (takeWhile_of_breaks others breaks)

/-- An exponent does not depend on what breaks it off. -/
theorem exponentLength_append (cs : List Char) (breaks : Breaks rest) :
    exponentLength (cs ++ rest) = exponentLength cs := by
  have digits := fun cs => takeWhile_append_of_breaks isDigit_of_breaker cs breaks
  match cs with
  | [] =>
    match rest with
    | [] => rfl
    | [b] => rfl
    | b :: d :: rest =>
      have first : (b == 'e' || b == 'E') = false :=
        forall_of_all (p := fun b => (b == 'e' || b == 'E') = false) (by decide) b breaks
      simp [exponentLength, first]
  | [c] =>
    match rest with
    | [] => rfl
    | b :: rest =>
      have second : isDigit b = false ∧ (b == '+' || b == '-') = false :=
        forall_of_all (p := fun b => isDigit b = false ∧ (b == '+' || b == '-') = false) (by decide)
          b breaks
      simp [exponentLength, second]
  | c :: d :: cs =>
    have more := digits (d :: cs)
    rw [List.cons_append] at more
    simp only [List.cons_append, exponentLength, more, digits cs]

/-- What is behind the characters of a kind that a text starts with goes on with what is behind the
text. -/
theorem drop_append_takeWhile (p : Char → Bool) (cs : List Char) :
    (cs ++ rest).drop (cs.takeWhile p).length = cs.drop (cs.takeWhile p).length ++ rest :=
  List.drop_append_of_le_length (List.takeWhile_sublist p).length_le

/-- The length of the part of a number behind its point, the point included. -/
def partLength : List Char → Nat
  | '.' :: rest => 1 + (rest.takeWhile isDigit).length
  | _ => 0

/-- The part of a number behind its point does not depend on what breaks it off. -/
theorem partLength_append (cs : List Char) (breaks : Breaks rest) :
    partLength (cs ++ rest) = partLength cs := by
  cases cs with
  | nil =>
    rw [List.nil_append]
    unfold partLength
    split
    · exact absurd rfl (ne_of_breaks (by decide) breaks _)
    · rfl
  | cons c cs =>
    by_cases point : c = '.'
    · subst point
      have digits := takeWhile_append_of_breaks isDigit_of_breaker cs breaks
      simp only [List.cons_append, partLength, digits]
    · simp [partLength, point]

/-- The part of a number behind its point is in its text. -/
theorem partLength_le (cs : List Char) : partLength cs ≤ cs.length := by
  unfold partLength
  split
  · next rest =>
    have digits := (List.takeWhile_sublist isDigit (l := rest)).length_le
    simp only [List.length_cons]
    omega
  · exact Nat.zero_le _

/-- A decimal number consists of a whole part, a part behind its point and an exponent. -/
theorem decimalShape_eq (cs : List Char) : decimalShape cs =
    let whole := (cs.takeWhile isDigit).length
    let part := partLength (cs.drop whole)
    let exponent := exponentLength (cs.drop (whole + part))
    (if part + exponent = 0 then .integer else .real, whole + part + exponent) := rfl

/-- A decimal number does not depend on what breaks it off. -/
theorem decimalShape_append (cs : List Char) (breaks : Breaks rest) :
    decimalShape (cs ++ rest) = decimalShape cs := by
  have digits := fun cs => takeWhile_append_of_breaks isDigit_of_breaker cs breaks
  have whole := (List.takeWhile_sublist isDigit (l := cs)).length_le
  have part := partLength_le (cs.drop (cs.takeWhile isDigit).length)
  rw [List.length_drop] at part
  have behind : (cs ++ rest).drop ((cs.takeWhile isDigit).length +
      partLength (cs.drop (cs.takeWhile isDigit).length)) =
      cs.drop ((cs.takeWhile isDigit).length +
        partLength (cs.drop (cs.takeWhile isDigit).length)) ++ rest :=
    List.drop_append_of_le_length (by omega)
  simp only [decimalShape_eq, digits cs, drop_append_takeWhile, partLength_append _ breaks,
    behind, exponentLength_append _ breaks]

/-- A number that does not start like a hexadecimal one is decimal. -/
theorem plainNumberShape_of_decimal {cs : List Char}
    (decimal : ∀ x d more, cs = '0' :: x :: d :: more →
      ((x == 'x' || x == 'X') && isHexDigit d) = false) :
    plainNumberShape cs = decimalShape cs := by
  unfold plainNumberShape
  split
  · next x d more =>
    rw [decimal x d more rfl]
    rfl
  · rfl

/-- A number, decimal or hexadecimal, does not depend on what breaks it off. -/
theorem plainNumberShape_append (cs : List Char) (breaks : Breaks rest) :
    plainNumberShape (cs ++ rest) = plainNumberShape cs := by
  have decimal := decimalShape_append cs breaks
  have noMark : ∀ b ∈ breakers, (b == 'x' || b == 'X') = false := forall_of_all (by decide)
  match cs with
  | [] =>
    rw [List.nil_append] at decimal ⊢
    rw [plainNumberShape_of_decimal, decimal]
    · rfl
    · intro x d more written
      exact absurd written (ne_of_breaks (by decide) breaks _)
  | [c] =>
    rw [plainNumberShape_of_decimal, decimal, plainNumberShape_of_decimal]
    · intro x d more written
      simp at written
    · intro x d more written
      obtain ⟨-, rfl⟩ := List.cons.inj written
      rw [noMark x breaks, Bool.false_and]
  | [c, e] =>
    rw [plainNumberShape_of_decimal, decimal, plainNumberShape_of_decimal]
    · intro x d more written
      simp at written
    · intro x d more written
      obtain ⟨-, rest'⟩ := List.cons.inj written
      obtain ⟨-, rfl⟩ := List.cons.inj rest'
      rw [isHexDigit_of_breaker d breaks, Bool.and_false]
  | c :: x :: d :: cs =>
    have digits := takeWhile_append_of_breaks isHexDigit_of_breaker (d :: cs) breaks
    by_cases zero : c = '0'
    · subst zero
      rw [List.cons_append] at digits
      simp only [List.cons_append, plainNumberShape, digits] at decimal ⊢
      rw [decimal]
    · simp only [List.cons_append] at decimal ⊢
      simp [plainNumberShape, zero, decimal]

/-- An exponent is in its text. -/
theorem exponentLength_le (cs : List Char) : exponentLength cs ≤ cs.length := by
  unfold exponentLength
  split
  · next c d cs =>
    have first := (List.takeWhile_sublist isDigit (l := d :: cs)).length_le
    have second := (List.takeWhile_sublist isDigit (l := cs)).length_le
    simp only [List.length_cons] at first ⊢
    grind
  · exact Nat.zero_le _

/-- A decimal number is in its text. -/
theorem decimalShape_le (cs : List Char) : (decimalShape cs).2 ≤ cs.length := by
  have whole := (List.takeWhile_sublist isDigit (l := cs)).length_le
  have part := partLength_le (cs.drop (cs.takeWhile isDigit).length)
  have exponent := exponentLength_le (cs.drop ((cs.takeWhile isDigit).length +
    partLength (cs.drop (cs.takeWhile isDigit).length)))
  simp only [List.length_drop] at part exponent
  simp only [decimalShape_eq]
  omega

/-- A number is in its text. -/
theorem plainNumberShape_le (cs : List Char) : (plainNumberShape cs).2 ≤ cs.length := by
  unfold plainNumberShape
  split
  · next x d more =>
    have digits := (List.takeWhile_sublist isHexDigit (l := d :: more)).length_le
    split
    · simp only [List.length_cons] at digits ⊢
      omega
    · exact decimalShape_le _
  · exact decimalShape_le _

/-- A number with the letters behind it does not depend on what breaks it off. -/
theorem numberShape_append (cs : List Char) (breaks : Breaks rest) :
    numberShape (cs ++ rest) = numberShape cs := by
  have plain := plainNumberShape_append cs breaks
  have behind : (cs ++ rest).drop (plainNumberShape cs).2 =
      cs.drop (plainNumberShape cs).2 ++ rest :=
    List.drop_append_of_le_length (plainNumberShape_le cs)
  simp only [numberShape, plain, behind, takeWhile_append_of_breaks isNameChar_of_breaker _ breaks]

/-- A quoted text that is closed before a blank is closed whatever stands in the place of the blank,
unless it is another quote. -/
theorem quotedLength_append {quote : Char} (noBlank : quote ≠ ' ') {cs : List Char} {n : Nat}
    (closed : quotedLength quote (cs ++ [' ']) = some n) (other : ∀ tail, rest ≠ quote :: tail) :
    n ≤ cs.length ∧ quotedLength quote (cs ++ rest) = some n := by
  match cs with
  | [] => 
    simp [quotedLength, noBlank.symm] at closed
  | [c] =>
    by_cases same : c = quote
    · subst same
      simp [quotedLength, noBlank.symm] at closed
      subst closed
      refine ⟨Nat.le_refl _, ?_⟩
      cases rest with
      | nil => simp [quotedLength]
      | cons b rest =>
        have ne : b ≠ c := fun h => other rest (by rw [h])
        simp [quotedLength, ne]
    · simp [quotedLength, noBlank.symm, same] at closed
  | c :: d :: cs =>
    by_cases same : c = quote
    · subst same
      by_cases doubled : d = c
      · subst doubled
        simp only [List.cons_append, quotedLength, if_true, Option.map_eq_some_iff] at closed ⊢
        obtain ⟨m, closed, rfl⟩ := closed
        obtain ⟨le, again⟩ := quotedLength_append noBlank closed other
        exact ⟨by simp only [List.length_cons]; omega, m, again, rfl⟩
      · simp [quotedLength, doubled] at closed ⊢
        omega
    · simp only [List.cons_append, quotedLength, if_neg same, Option.map_eq_some_iff] at closed ⊢
      obtain ⟨m, closed, rfl⟩ := closed
      have behind : quotedLength quote ((d :: cs) ++ [' ']) = some m := closed
      obtain ⟨le, again⟩ := quotedLength_append noBlank behind other
      exact ⟨by simp only [List.length_cons] at le ⊢; omega, m, again, rfl⟩

/-- A comment that is closed before a blank is closed whatever stands in the place of the blank. -/
theorem blockLength_append {cs : List Char} (closed : blockLength (cs ++ [' ']) ≤ cs.length)
    (other : ∀ tail, rest ≠ '/' :: tail) :
    blockLength (cs ++ rest) = blockLength (cs ++ [' ']) := by
  match cs with
  | [] => simp [blockLength] at closed
  | [c] => simp [blockLength] at closed
  | c :: d :: cs =>
    by_cases closes : c = '*' ∧ d = '/'
    · obtain ⟨rfl, rfl⟩ := closes
      rfl
    · have step : ∀ more, blockLength (c :: d :: more) = blockLength (d :: more) + 1 := by
        intro more
        rw [blockLength]
        rintro rest rfl same
        exact closes ⟨rfl, (List.cons.inj same).1⟩
      simp only [List.cons_append, step] at closed ⊢
      have inside : blockLength ((d :: cs) ++ [' ']) ≤ (d :: cs).length := by
        simp only [List.cons_append, List.length_cons] at closed ⊢
        omega
      have again := blockLength_append inside other
      rw [List.cons_append, List.cons_append] at again
      rw [again]

/-- Characters that are not gone on with by a blank that could go on with them are not gone on with
by anything. -/
theorem takeWhile_append_of_le {p : Char → Bool} (blank : p ' ' = true) {cs : List Char}
    (stops : ((cs ++ [' ']).takeWhile p).length ≤ cs.length) (rest : List Char) :
    (cs ++ rest).takeWhile p = cs.takeWhile p ∧ (cs.takeWhile p).length < cs.length := by
  induction cs with
  | nil => simp [blank] at stops
  | cons c cs ih =>
    cases holds : p c with
    | false => simp [holds]
    | true =>
      simp only [List.cons_append, List.takeWhile_cons, holds, if_true, List.length_cons,
        Nat.add_le_add_iff_right] at stops ⊢
      obtain ⟨same, less⟩ := ih stops
      exact ⟨by rw [same], by omega⟩

/-- A text of bytes that is closed before a blank is closed whatever breaks it off. -/
theorem blobShape_append {cs : List Char} (closed : (blobShape (cs ++ [' '])).2 ≤ cs.length + 2)
    (breaks : Breaks rest) : blobShape (cs ++ rest) = blobShape (cs ++ [' ']) := by
  have isBreak : Breaks [' '] := show ' ' ∈ breakers by decide
  have digits := takeWhile_append_of_breaks isHexDigit_of_breaker cs breaks
  have blank := takeWhile_append_of_breaks isHexDigit_of_breaker cs isBreak
  have whole := (List.takeWhile_sublist isHexDigit (l := cs)).length_le
  simp only [blobShape, digits, blank, drop_append_takeWhile] at closed ⊢
  have length : (cs.drop (cs.takeWhile isHexDigit).length).length =
    cs.length - (cs.takeWhile isHexDigit).length := List.length_drop
  generalize cs.drop (cs.takeWhile isHexDigit).length = behind at closed length ⊢
  by_cases quoted : ∃ tail, behind = '\x27' :: tail
  · obtain ⟨tail, rfl⟩ := quoted
    rfl
  · have noQuote : ∀ tail, Breaks tail → ∀ more, behind ++ tail ≠ '\x27' :: more := by
      intro tail broken more written
      cases behind with
      | nil => exact ne_of_breaks (by decide) broken _ written
      | cons b behind => exact quoted ⟨behind, by rw [(List.cons.inj written).1]⟩
    split at closed
    · next tail written => exact absurd written (noQuote _ isBreak tail)
    · simp only at closed
      have stops : ((behind ++ [' ']).takeWhile (· != '\x27')).length ≤ behind.length := by
        split at closed <;> rw [List.length_append, List.length_singleton] at * <;> omega
      obtain ⟨-, less⟩ := takeWhile_append_of_le (by decide) stops []
      have inside := fun more => (takeWhile_append_of_le (by decide) stops more).1
      have present : ∀ more, ((behind ++ more).takeWhile (· != '\x27')).length <
          (behind ++ more).length := by
        intro more
        rw [inside, List.length_append]
        omega
      split
      · next tail written => exact absurd written (noQuote _ breaks tail)
      · rw [if_pos (present rest), if_pos (present [' ']), inside, inside]

/-- What starts with a digit is a number. -/
theorem shape_digit {c : Char} {cs : List Char} (gap : startsGap c = false)
    (name : startsName c = false) (digit : isDigit c = true) :
    shape (c :: cs) = (some (numberShape (c :: cs)).1, (numberShape (c :: cs)).2) := by
  simp only [shape, gap, name, digit, Bool.false_eq_true, if_false, if_true]

/-- The signs for which it depends on what follows them what they start. -/
def leaders : List Char :=
  ['-', '/', '=', '<', '>', '!', '|', '.', '\x27', '\x22', '\x60', '[', '?', ':', '@', '$']

/-- Other signs are symbols of one character, or nothing that can be read. -/
theorem shape_other {c : Char} {cs : List Char} (gap : startsGap c = false)
    (name : startsName c = false) (digit : isDigit c = false) (other : c ∉ leaders) :
    shape (c :: cs) =
      (some (if "-+*/%=<>|&~(),;.".toList.contains c then .symbol else .unreadable), 1) := by
  simp only [leaders, List.mem_cons, List.not_mem_nil, or_false, not_or] at other
  simp only [shape, gap, name, digit, Bool.false_eq_true, if_false]
  split <;> simp_all
  split <;> rfl

/-- A quoted text that is closed before a blank is closed whatever breaks it off. -/
theorem quotedShape_append {kind : TokenKind} {quote : Char} {cs : List Char}
    (noBlank : quote ≠ ' ') (noBreaker : quote ∉ breakers)
    (closed : (quotedShape kind quote (cs ++ [' '])).2 ≤ cs.length + 1) (breaks : Breaks rest) :
    quotedShape kind quote (cs ++ rest) = quotedShape kind quote (cs ++ [' ']) := by
  cases length : quotedLength quote (cs ++ [' ']) with
  | none =>
    simp only [quotedShape, length, List.length_append, List.length_singleton] at closed
    omega
  | some n =>
    obtain ⟨-, again⟩ :=
      quotedLength_append noBlank length (ne_of_breaks noBreaker breaks)
    simp only [quotedShape, length, again]

/-- Signs that make one symbol with some signs behind them. -/
def pairs : List (Char × List Char) :=
  [('=', ['=']), ('<', ['=', '>', '<']), ('>', ['=', '>']), ('!', ['=']), ('|', ['|'])]

/-- Signs start no gaps, names or whole numbers. -/
theorem plain_of_leader : ∀ c ∈ leaders,
    startsGap c = false ∧ startsName c = false ∧ isDigit c = false :=
  forall_of_all (by decide)

/-- A sign makes one symbol with the sign behind it, or is one alone. -/
theorem shape_pair {c : Char} {seconds : List Char} (known : (c, seconds) ∈ pairs)
    (cs : List Char) :
    shape (c :: cs) = if cs.head?.any seconds.contains then (some .symbol, 2)
      else (some (if c = '!' then .unreadable else .symbol), 1) := by
  have leads : ∀ entry ∈ pairs, entry.1 ∈ leaders := by decide
  obtain ⟨gap, name, digit⟩ := plain_of_leader c (leads _ known)
  simp only [pairs, List.mem_cons, Prod.mk.injEq, List.not_mem_nil, or_false] at known
  cases cs with
  | nil => obtain ⟨rfl, rfl⟩ | ⟨rfl, rfl⟩ | ⟨rfl, rfl⟩ | ⟨rfl, rfl⟩ | ⟨rfl, rfl⟩ := known <;> rfl
  | cons d cs =>
    obtain ⟨rfl, rfl⟩ | ⟨rfl, rfl⟩ | ⟨rfl, rfl⟩ | ⟨rfl, rfl⟩ | ⟨rfl, rfl⟩ := known
    · by_cases second : d = '=' <;> simp [shape, gap, name, digit, second]
    · by_cases second : d = '=' ∨ d = '>' ∨ d = '<'
      · obtain rfl | rfl | rfl := second <;> rfl
      · simp only [not_or] at second
        simp [shape, gap, name, digit, second]
    · by_cases second : d = '=' ∨ d = '>'
      · obtain rfl | rfl := second <;> rfl
      · simp only [not_or] at second
        simp [shape, gap, name, digit, second]
    · by_cases second : d = '=' <;> simp [shape, gap, name, digit, second]
    · by_cases second : d = '|' <;> simp [shape, gap, name, digit, second]

/-- What breaks a sign off makes no symbol with it. -/
theorem any_head?_append {seconds : List Char}
    (others : ∀ b ∈ breakers, seconds.contains b = false) (cs : List Char) (breaks : Breaks rest) :
    (cs ++ rest).head?.any seconds.contains = cs.head?.any seconds.contains := by
  cases cs with
  | nil =>
    cases rest with
    | nil => rfl
    | cons b rest => simpa using others b breaks
  | cons c cs => rfl

/-- A minus, an arrow or a line comment does not depend on what breaks it off. -/
theorem shape_dash {cs : List Char} (closed : (shape ('-' :: (cs ++ [' ']))).2 ≤ cs.length + 1)
    (breaks : Breaks rest) : shape ('-' :: (cs ++ rest)) = shape ('-' :: (cs ++ [' '])) := by
  have facts := plain_of_leader '-' (by decide)
  have single : ∀ d more, d ≠ '-' → d ≠ '>' → shape ('-' :: d :: more) = (some .symbol, 1) := by
    intro d more dash arrow
    simp [shape, facts, dash, arrow]
  have arrow : ∀ e more, e ≠ '>' → shape ('-' :: '>' :: e :: more) = (some .symbol, 2) := by
    intro e more other
    simp [shape, facts, other]
  cases cs with
  | nil =>
    cases rest with
    | nil => rfl
    | cons b rest =>
      have other := forall_of_all (p := fun b => b ≠ '-' ∧ b ≠ '>') (by decide) b breaks
      exact single b rest other.1 other.2
  | cons d cs =>
    by_cases dash : d = '-'
    · subst dash
      have comment : ∀ more, shape ('-' :: '-' :: more) =
          (none, 2 + (more.takeWhile (· != '\n')).length) := fun _ => rfl
      simp only [List.cons_append, comment] at closed ⊢
      have stops : ((cs ++ [' ']).takeWhile (· != '\n')).length ≤ cs.length := by
        simp only [List.length_cons] at closed
        omega
      have inside := fun more => (takeWhile_append_of_le (by decide) stops more).1
      rw [inside, inside]
    · by_cases isArrow : d = '>'
      · subst isArrow
        cases cs with
        | nil =>
          cases rest with
          | nil => rfl
          | cons b rest =>
            exact arrow b rest (forall_of_all (p := (· ≠ '>')) (by decide) b breaks)
        | cons e cs =>
          by_cases second : e = '>'
          · subst second
            rfl
          · simp only [List.cons_append, arrow _ _ second]
      · simp only [List.cons_append, single _ _ dash isArrow]

/-- A division or a closed comment does not depend on what breaks it off. -/
theorem shape_slash {cs : List Char} (closed : (shape ('/' :: (cs ++ [' ']))).2 ≤ cs.length + 1)
    (breaks : Breaks rest) : shape ('/' :: (cs ++ rest)) = shape ('/' :: (cs ++ [' '])) := by
  have facts := plain_of_leader '/' (by decide)
  have single : ∀ d more, d ≠ '*' → shape ('/' :: d :: more) = (some .symbol, 1) := by
    intro d more star
    simp [shape, facts, star]
  cases cs with
  | nil =>
    cases rest with
    | nil => rfl
    | cons b rest => exact single b rest (forall_of_all (p := (· ≠ '*')) (by decide) b breaks)
  | cons d cs =>
    by_cases star : d = '*'
    · subst star
      cases cs with
      | nil => exact absurd closed (by decide)
      | cons e cs =>
        have comment : ∀ more, shape ('/' :: '*' :: e :: more) =
            (none, 2 + blockLength (e :: more)) := fun _ => rfl
        simp only [List.cons_append, comment] at closed ⊢
        have stops : blockLength ((e :: cs) ++ [' ']) ≤ (e :: cs).length := by
          simp only [List.cons_append, List.length_cons] at closed ⊢
          omega
        have again := blockLength_append stops (ne_of_breaks (by decide) breaks)
        simp only [List.cons_append] at again
        rw [again]
    · simp only [List.cons_append, single _ _ star]

/-- A point is a symbol, or starts a number with the digit behind it. -/
theorem shape_point_eq (cs : List Char) :
    shape ('.' :: cs) =
      if cs.head?.any isDigit then (some (numberShape ('.' :: cs)).1, (numberShape ('.' :: cs)).2)
      else (some .symbol, 1) := by
  have facts := plain_of_leader '.' (by decide)
  cases cs with
  | nil => rfl
  | cons d cs => by_cases digit : isDigit d = true <;> simp [shape, facts, digit]

/-- A point, or the number it starts, does not depend on what breaks it off. -/
theorem shape_point (cs : List Char) (breaks : Breaks rest) :
    shape ('.' :: (cs ++ rest)) = shape ('.' :: cs) := by
  have same := numberShape_append ('.' :: cs) breaks
  rw [List.cons_append] at same
  have digit : (cs ++ rest).head?.any isDigit = cs.head?.any isDigit := by
    cases cs with
    | nil =>
      cases rest with
      | nil => rfl
      | cons b rest => simpa using isDigit_of_breaker b breaks
    | cons d cs => rfl
  rw [shape_point_eq, shape_point_eq, same, digit]

/-- A closed quoted text does not depend on what breaks it off. -/
theorem shape_quote {c : Char} {kind : TokenKind}
    (known : (c, kind) ∈ [('\x27', .string), ('\x22', .quotedName), ('\x60', .bracketedName)])
    {cs : List Char} (closed : (shape (c :: (cs ++ [' ']))).2 ≤ cs.length + 1)
    (breaks : Breaks rest) : shape (c :: (cs ++ rest)) = shape (c :: (cs ++ [' '])) := by
  have quoted : ∀ more, shape (c :: more) =
      (some (quotedShape kind c more).1, (quotedShape kind c more).2) := by
    intro more
    simp only [List.mem_cons, Prod.mk.injEq, List.not_mem_nil, or_false] at known
    obtain ⟨rfl, rfl⟩ | ⟨rfl, rfl⟩ | ⟨rfl, rfl⟩ := known <;> rfl
  have plain : c ≠ ' ' ∧ c ∉ breakers := by
    simp only [List.mem_cons, Prod.mk.injEq, List.not_mem_nil, or_false] at known
    obtain ⟨rfl, -⟩ | ⟨rfl, -⟩ | ⟨rfl, -⟩ := known <;> decide
  rw [quoted] at closed
  rw [quoted, quoted, quotedShape_append plain.1 plain.2 closed breaks]

/-- A closed name in brackets does not depend on what breaks it off. -/
theorem shape_bracket {cs : List Char} (closed : (shape ('[' :: (cs ++ [' ']))).2 ≤ cs.length + 1)
    (rest : List Char) : shape ('[' :: (cs ++ rest)) = shape ('[' :: (cs ++ [' '])) := by
  have bracketed : ∀ more, shape ('[' :: more) =
      if (more.takeWhile (· != ']')).length < more.length
      then (some .bracketedName, (more.takeWhile (· != ']')).length + 2)
      else (some .unreadable, more.length + 1) := fun _ => rfl
  rw [bracketed] at closed
  have stops : ((cs ++ [' ']).takeWhile (· != ']')).length ≤ cs.length := by
    split at closed <;> simp only [List.length_append, List.length_singleton] at * <;> omega
  obtain ⟨-, less⟩ := takeWhile_append_of_le (by decide) stops []
  have inside := fun more => (takeWhile_append_of_le (by decide) stops more).1
  have present : ∀ more : List Char, (cs.takeWhile (· != ']')).length < (cs ++ more).length := by
    intro more
    rw [List.length_append]
    omega
  rw [bracketed, bracketed, inside, inside, if_pos (present _), if_pos (present _)]

/-- A parameter does not depend on what breaks it off. -/
theorem shape_parameter {c : Char} (known : c ∈ ['?', ':', '@', '$']) (cs : List Char)
    (breaks : Breaks rest) : shape (c :: (cs ++ rest)) = shape (c :: cs) := by
  have digits := takeWhile_append_of_breaks isDigit_of_breaker cs breaks
  have name := takeWhile_append_of_breaks isNameChar_of_breaker cs breaks
  have mark : ∀ more, shape ('?' :: more) =
      (some .parameter, 1 + (more.takeWhile isDigit).length) := fun _ => rfl
  have named : ∀ d ∈ [':', '@', '$'], ∀ more, shape (d :: more) =
      (some (if (more.takeWhile isNameChar).length = 0 then .unreadable else .parameter),
        1 + (more.takeWhile isNameChar).length) := by
    intro d mem more
    simp only [List.mem_cons, List.not_mem_nil, or_false] at mem
    obtain rfl | rfl | rfl := mem <;> rfl
  rcases List.mem_cons.1 known with rfl | known
  · rw [mark, mark, digits]
  · rw [named c known, named c known, name]

/-- What starts with a sign and is closed before a blank does not depend on what breaks it off. -/
theorem shape_leader {c : Char} {cs : List Char} (leads : c ∈ leaders)
    (closed : (shape (c :: (cs ++ [' ']))).2 ≤ cs.length + 1) (breaks : Breaks rest) :
    shape (c :: (cs ++ rest)) = shape (c :: (cs ++ [' '])) := by
  have isBreak : Breaks [' '] := show ' ' ∈ breakers by decide
  by_cases paired : ∃ seconds, (c, seconds) ∈ pairs
  · obtain ⟨seconds, known⟩ := paired
    have others : ∀ b ∈ breakers, seconds.contains b = false := by
      have each : (pairs.all fun entry => breakers.all fun b => !entry.2.contains b) = true := by
        decide
      simpa using List.all_eq_true.1 each _ known
    rw [shape_pair known, shape_pair known, any_head?_append others cs breaks,
      any_head?_append others cs isBreak]
  · have kinds : ∀ c ∈ leaders, (∃ entry ∈ pairs, entry.1 = c) ∨ c = '-' ∨ c = '/' ∨ c = '.' ∨
        (∃ entry ∈ [('\x27', TokenKind.string), ('\x22', .quotedName), ('\x60', .bracketedName)],
          entry.1 = c) ∨ c = '[' ∨ c ∈ ['?', ':', '@', '$'] := forall_of_all (by decide)
    rcases kinds c leads with
      ⟨entry, known, rfl⟩ | rfl | rfl | rfl | ⟨entry, known, rfl⟩ | rfl | known
    · exact absurd ⟨entry.2, known⟩ paired
    · exact shape_dash closed breaks
    · exact shape_slash closed breaks
    · rw [shape_point cs breaks, shape_point cs isBreak]
    · exact shape_quote known closed breaks
    · exact shape_bracket closed rest
    · rw [shape_parameter known cs breaks, shape_parameter known cs isBreak]

/-- What a token or comment is that does not take a blank behind its text does not depend on what
breaks it off. -/
theorem shape_append {c : Char} {cs : List Char} (gap : startsGap c = false)
    (closed : (shape (c :: cs ++ [' '])).2 ≤ cs.length + 1) (breaks : Breaks rest) :
    shape (c :: cs ++ rest) = shape (c :: cs ++ [' ']) := by
  have isBreak : Breaks [' '] := show ' ' ∈ breakers by decide
  simp only [List.cons_append] at closed ⊢
  cases name : startsName c with
  | true =>
    by_cases bytes : (c = 'x' ∨ c = 'X') ∧ ∃ tail, cs = '\x27' :: tail
    · obtain ⟨letter, tail, rfl⟩ := bytes
      have blob : ∀ more, shape (c :: ('\x27' :: tail ++ more)) =
          (some (blobShape (tail ++ more)).1, (blobShape (tail ++ more)).2) := by
        intro more
        obtain rfl | rfl := letter <;> rfl
      rw [blob] at closed
      have inside : (blobShape (tail ++ [' '])).2 ≤ tail.length + 2 := by simpa using closed
      rw [blob, blob, blobShape_append inside breaks]
    · have unquoted : ∀ more, Breaks more → (c = 'x' ∨ c = 'X') →
          ∀ tail, cs ++ more ≠ '\x27' :: tail := by
        intro more broken letter tail written
        cases cs with
        | nil => exact ne_of_breaks (by decide) broken _ written
        | cons d cs => exact bytes ⟨letter, cs, by rw [(List.cons.inj written).1]⟩
      rw [shape_word gap name (unquoted rest breaks), shape_word gap name (unquoted _ isBreak),
        takeWhile_append_of_breaks isNameChar_of_breaker cs breaks,
        takeWhile_append_of_breaks isNameChar_of_breaker cs isBreak]
  | false =>
    cases digit : isDigit c with
    | true =>
      have number := numberShape_append (c :: cs) breaks
      have blank := numberShape_append (c :: cs) isBreak
      rw [List.cons_append] at number blank
      rw [shape_digit gap name digit, shape_digit gap name digit, number, blank]
    | false =>
      by_cases leads : c ∈ leaders
      · exact shape_leader leads closed breaks
      · rw [shape_other gap name digit leads, shape_other gap name digit leads]
end Breaking

end Registrar.Sql.Token
