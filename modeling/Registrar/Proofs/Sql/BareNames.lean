import Mathlib.Data.List.TakeWhile
import Registrar.Proofs.Outcome
import Registrar.Proofs.Sql.Closing
import Registrar.Proofs.Sql.Spelling

/-!
# Names without quotes

A name that stands in a statement without quotes is read as itself if it is a word that is not kept
for the grammar.  Of any other name something else is read: names with commas between them, whatever
characters they hold, are read as just these names only if each is such a word.
-/

namespace Registrar.Sql

open Registrar.Text Token

/-! ## Words -/

/-- Whether some characters make up a word. -/
def isWordChars : List Char → Bool
  | [] => false
  | c :: cs => startsName c && cs.all isNameChar

/-- Whether a name can stand in a statement without quotes. -/
def IsBareName (name : String) : Prop :=
  isWordChars name.toList = true ∧ isReserved name = false

instance (name : String) : Decidable (IsBareName name) :=
  inferInstanceAs (Decidable (_ ∧ _))

section Words

variable {c : Char} {cs : List Char}

/-- An identifier is a word. -/
theorem isWordChars_of_identifier (valid : isIdentifierChars cs = true) : isWordChars cs = true := by
  cases cs with
  | nil => cases valid
  | cons c cs =>
    rw [isIdentifierChars, Bool.and_eq_true, List.all_eq_true] at valid
    rw [isWordChars, Bool.and_eq_true, List.all_eq_true]
    exact ⟨startsName_of_startsIdentifier valid.1, fun d mem => isNameChar_of_identifier (valid.2 d mem)⟩

/-- A plain name can stand without quotes. -/
theorem IsPlainName.bare {name : String} (plain : IsPlainName name) : IsBareName name :=
  ⟨isWordChars_of_identifier plain.1, plain.2⟩

/-- What may start a name has a code beyond those of digits and blanks. -/
theorem code_of_startsName (starts : startsName c = true) : 0x41 ≤ c.toNat := by
  rw [startsName, Bool.or_eq_true] at starts
  rcases starts with identifier | high
  · exact code_of_startsIdentifier identifier
  · have beyond : 0x80 ≤ c.toNat := by simpa using high
    omega

/-- A word is one token. -/
theorem spells_word_chars (valid : isWordChars cs = true) : Spells cs [(.word, cs)] := by
  cases cs with
  | nil => cases valid
  | cons c cs =>
    rw [isWordChars, Bool.and_eq_true] at valid
    have code := code_of_startsName valid.1
    have noGap : isGap c = false := isGap_eq_false (by omega)
    have present : c ≠ '\x00' := by
      rintro rfl
      exact absurd code (by decide)
    refine Spells.of_shape noGap present fun rest breaks => ?_
    have gap : startsGap c = false := by
      rw [isGap, Bool.or_eq_false_iff] at noGap
      exact noGap.1
    have unquoted : c = 'x' ∨ c = 'X' → ∀ tail, cs ++ rest ≠ '\x27' :: tail := by
      intro _ tail same
      cases cs with
      | nil => exact ne_of_breaks (by decide) breaks tail same
      | cons d ds =>
        obtain rfl := (List.cons.inj same).1
        exact absurd (List.all_eq_true.1 valid.2 _ List.mem_cons_self) (by decide)
    have whole : (cs ++ rest).takeWhile isNameChar = cs := by
      rw [takeWhile_append_of_stops cs (takeWhile_of_breaks isNameChar_of_breaker breaks)]
      exact List.takeWhile_eq_self_iff.2 (List.all_eq_true.1 valid.2)
    rw [List.cons_append, shape_word gap valid.1 unquoted, whole, Nat.add_comm]

/-- A number is no word. -/
theorem numberShape_ne_word (cs : List Char) : (numberShape cs).1 ≠ .word := by
  have decimal (ds : List Char) : (decimalShape ds).1 ≠ .word := by
    unfold decimalShape
    dsimp only
    split
    · split <;> exact (fun h => by cases h)
    · split <;> exact (fun h => by cases h)
  have plain : (plainNumberShape cs).1 ≠ .word := by
    unfold plainNumberShape
    split
    · split
      · exact nofun
      · exact decimal _
    · exact decimal _
  unfold numberShape
  dsimp only
  split
  · exact plain
  · exact nofun

/-- A text of bytes is no word. -/
theorem blobShape_ne_word (cs : List Char) : (blobShape cs).1 ≠ .word := by
  unfold blobShape
  dsimp only
  split
  · dsimp only
    split <;> exact nofun
  · exact nofun

/-- A quoted text is no word. -/
theorem quotedShape_ne_word {kind : TokenKind} (quoted : kind ≠ .word) (quote : Char) (cs : List Char) :
    (quotedShape kind quote cs).1 ≠ .word := by
  unfold quotedShape
  split
  · exact quoted
  · exact nofun

/-- Only what may start a name starts a word. -/
theorem shape_ne_word (name : startsName c = false) : (shape (c :: cs)).1 ≠ some .word := by
  have unfolded : shape (c :: cs) = if startsGap c then _ else if startsName c then _
      else if isDigit c then _ else _ := rfl
  rw [unfolded, name]
  simp only [Bool.false_eq_true, if_false]
  split
  · exact nofun
  split
  · exact fun same => numberShape_ne_word (c :: cs) (Option.some.inj same)
  split <;> (try dsimp only) <;> (try split) <;> simp [numberShape_ne_word, quotedShape_ne_word]

/-- A word goes on as far as a name may. -/
theorem of_shape_word {n : Nat} (shaped : shape (c :: cs) = (some .word, n)) :
    startsName c = true ∧ n = 1 + (cs.takeWhile isNameChar).length := by
  have isWord : (shape (c :: cs)).1 = some .word := by rw [shaped]
  cases starts : startsName c with
  | false => exact absurd isWord (shape_ne_word starts)
  | true =>
    have unfolded : shape (c :: cs) = if startsGap c then _ else if startsName c then _ else _ := rfl
    rw [unfolded, starts] at shaped
    simp only [if_true] at shaped
    split at shaped
    · cases shaped
    · split at shaped
      · exact absurd (Option.some.inj (congrArg Prod.fst shaped)) (blobShape_ne_word _)
      · exact absurd (Option.some.inj (congrArg Prod.fst shaped)) (blobShape_ne_word _)
      · exact ⟨rfl, (Prod.mk.inj shaped).2.symm⟩

end Words

/-! ## What a text is cut into -/

section Cutting

variable {l : TokenKind × List Char} {ls : List (TokenKind × List Char)}

/-- What a text that starts with some character is cut into. -/
theorem lexemes_cons {c : Char} (cs : List Char) (present : c ≠ '\x00') :
    lexemes (c :: cs) = ((shape (c :: cs)).1.map fun kind =>
        (kind, (c :: cs).take (max 1 (shape (c :: cs)).2))).toList ++
      lexemes ((c :: cs).drop (max 1 (shape (c :: cs)).2)) := by
  rw [lexemes, scanAt_cons 0 cs present, List.map_append, map_lexeme_scanAt]
  cases (shape (c :: cs)).1 <;> rfl

/-- The first token of a text stands in it behind a gap, and the others are those of what is behind
it. -/
theorem of_lexemes {cs : List Char} (cut : lexemes cs = l :: ls) :
    ∃ gap behind, cs = gap ++ (l.2 ++ behind) ∧ l.2 ≠ [] ∧ lexemes behind = ls ∧
      (l.1 = .word → isWordChars l.2 = true) := by
  match cs with
  | [] => cases cut
  | c :: cs =>
    have present : c ≠ '\x00' := by
      rintro rfl
      cases cut
    rw [lexemes_cons cs present] at cut
    have halves := List.take_append_drop (max 1 (shape (c :: cs)).2) (c :: cs)
    cases kind : (shape (c :: cs)).1 with
    | none =>
      rw [kind] at cut
      have shorter : ((c :: cs).drop (max 1 (shape (c :: cs)).2)).length < (c :: cs).length := by
        rw [List.length_drop, List.length_cons]
        omega
      obtain ⟨gap, behind, same, some, rest, word⟩ := of_lexemes cut
      refine ⟨(c :: cs).take (max 1 (shape (c :: cs)).2) ++ gap, behind, ?_, some, rest, word⟩
      rw [List.append_assoc, ← same, halves]
    | some kind' =>
      rw [kind] at cut
      obtain ⟨rfl, rest⟩ := List.cons.inj cut
      refine ⟨[], _, halves.symm, ?_, rest, fun isWord => ?_⟩
      · rw [ne_eq, List.take_eq_nil_iff]
        simp
      · obtain rfl : kind' = .word := isWord
        have shaped : shape (c :: cs) = (some .word, (shape (c :: cs)).2) := Prod.ext kind rfl
        obtain ⟨starts, length⟩ := of_shape_word shaped
        have taken : (c :: cs).take (max 1 (shape (c :: cs)).2) = c :: cs.takeWhile isNameChar := by
          rw [length, Nat.max_eq_right (by omega), Nat.add_comm, List.take_succ_cons,
            ← List.prefix_iff_eq_take.1 (List.takeWhile_prefix isNameChar)]
        show isWordChars ((c :: cs).take (max 1 (shape (c :: cs)).2)) = true
        rw [taken, isWordChars, starts, Bool.true_and, List.all_eq_true]
        exact fun d mem => List.mem_takeWhile_imp mem
termination_by cs.length

end Cutting

/-! ## What a list of names is read from -/

section Lists

variable {l : TokenKind × List Char} {ls rest : List (TokenKind × List Char)} {name : String}
  {names : List String}

/-- A token of some kind and source stands for a name. -/
def StandsFor (l : TokenKind × List Char) (name : String) : Prop :=
  ∃ t : Token, t.lexeme = l ∧ t.isName = true ∧ t.unquoted = name

/-- Dropping the second of doubled quotes makes nothing longer. -/
theorem length_undouble_le (quote : Char) (cs : List Char) :
    (undouble quote cs).length ≤ cs.length := by
  induction cs using undouble.induct quote with
  | case1 c d cs both ih =>
    rw [undouble, if_pos both, List.length_cons, List.length_cons, List.length_cons]
    omega
  | case2 c d cs apart ih =>
    rw [undouble, if_neg apart, List.length_cons, List.length_cons]
    omega
  | case3 cs short => rw [undouble.eq_2 quote cs short]

/-- A name is no longer than what it is read from, and shorter unless that is a word. -/
theorem of_standsFor (stands : StandsFor l name) (present : l.2 ≠ []) :
    name.toList.length ≤ l.2.length ∧
      (name.toList.length = l.2.length → l.1 = .word ∧ l.2 = name.toList ∧ isReserved name = false) := by
  obtain ⟨⟨kind, source, start, slot⟩, rfl, isName, rfl⟩ := stands
  obtain ⟨c, cs, rfl⟩ := List.exists_cons_of_ne_nil (show source ≠ [] from present)
  have shorter (quote : Char) : (undouble quote cs.dropLast).length < cs.length + 1 := by
    have undoubled := length_undouble_le quote cs.dropLast
    have dropped : cs.dropLast.length = cs.length - 1 := List.length_dropLast
    omega
  have quoted {name : String} (less : name.toList.length < cs.length + 1) :
      name.toList.length ≤ (c :: cs).length ∧ (name.toList.length = (c :: cs).length →
        kind = .word ∧ c :: cs = name.toList ∧ isReserved name = false) :=
    ⟨by rw [List.length_cons]; omega, fun same => by rw [List.length_cons] at same; omega⟩
  cases kind with
  | word =>
    have free : isReserved (String.ofList (c :: cs)) = false := by
      simpa [Token.isName, Token.text] using isName
    refine ⟨?_, fun _ => ⟨rfl, ?_, free⟩⟩ <;> simp [Token.unquoted, lexeme]
  | string =>
    refine quoted ?_
    rw [show Token.unquoted ⟨.string, c :: cs, start, slot⟩ =
      String.ofList (undouble '\x27' cs.dropLast) from rfl, String.toList_ofList]
    exact shorter _
  | quotedName =>
    refine quoted ?_
    rw [show Token.unquoted ⟨.quotedName, c :: cs, start, slot⟩ =
      String.ofList (undouble '\x22' cs.dropLast) from rfl, String.toList_ofList]
    exact shorter _
  | bracketedName =>
    refine quoted ?_
    by_cases bracket : c = '['
    · rw [bracket, show Token.unquoted ⟨.bracketedName, '[' :: cs, start, slot⟩ =
        String.ofList cs.dropLast from rfl, String.toList_ofList, List.length_dropLast]
      omega
    · rw [show Token.unquoted ⟨.bracketedName, c :: cs, start, slot⟩ =
        String.ofList (undouble '\x60' cs.dropLast) by simp [Token.unquoted],
        String.toList_ofList]
      exact shorter _
  | _ => cases isName

/-- Tokens that read as names with commas between them, up to a closing parenthesis. -/
inductive Lists : List String → List (TokenKind × List Char) → List (TokenKind × List Char) → Prop
  | one {l : TokenKind × List Char} {name : String} {rest : List (TokenKind × List Char)} :
    StandsFor l name → Lists [name] (l :: (.symbol, [')']) :: rest) rest
  | more {l : TokenKind × List Char} {name : String} {names : List String}
      {ls rest : List (TokenKind × List Char)} :
    StandsFor l name → Lists names ls rest → Lists (name :: names) (l :: comma :: ls) rest

/-- A token that is a symbol is written as it. -/
theorem lexeme_of_isSymbol {t : Token} {symbol : String} (is : t.isSymbol symbol = true) :
    lexeme t = (.symbol, symbol.toList) := by
  simp only [Token.isSymbol, Bool.and_eq_true, beq_iff_eq] at is
  rw [lexeme, is.1, ← is.2, Token.text, String.toList_ofList]

/-- A token that is a keyword starts with the first letter of it. -/
theorem exists_of_isWord {t : Token} {word : String} {c : Char} {cs : List Char}
    (isWord : t.isWord word = true) (letters : word.toList = c :: cs) :
    ∃ d ∈ t.source, upperChar d = c := by
  simp only [Token.isWord, Bool.and_eq_true, beq_iff_eq] at isWord
  have capitals : t.source.map upperChar = c :: cs := by
    rw [← letters, ← isWord.2, upperAscii, mapChars, String.toList_ofList, Token.text,
      String.toList_ofList]
  obtain ⟨d, ds, source, first, -⟩ := List.map_eq_cons_iff.1 capitals
  exact ⟨d, by rw [source]; exact List.mem_cons_self, first⟩

/-- Names that are read come from tokens that list them. -/
theorem lists_of_readList {fuel : Nat} {us rest : List Token} {names : List Token} {close : Token}
    (read : readList readName fuel us = .ok (names, close :: rest))
    (closes : close.isSymbol ")" = true) :
    Lists (names.map Token.unquoted) (us.map lexeme) (rest.map lexeme) := by
  induction fuel generalizing us names with
  | zero => cases read
  | succ fuel ih =>
    rw [readList] at read
    obtain ⟨⟨t, behind⟩, first, done⟩ := bind_eq_ok read
    obtain ⟨rfl, isName⟩ := of_readName first
    have stands : StandsFor (lexeme t) t.unquoted := ⟨t, rfl, isName, rfl⟩
    cases goesOn : skipSymbol? "," behind with
    | some more =>
      simp only [goesOn] at done
      obtain ⟨⟨others, left⟩, ofOthers, done⟩ := bind_eq_ok done
      obtain ⟨rfl, rfl⟩ := Prod.mk.inj (Except.ok.inj done)
      obtain ⟨c, rfl, isComma⟩ := of_skipSymbol? goesOn
      rw [List.map_cons, List.map_cons, List.map_cons, lexeme_of_isSymbol isComma]
      exact .more stands (ih ofOthers)
    | none =>
      simp only [goesOn] at done
      obtain ⟨rfl, rfl⟩ := Prod.mk.inj (Except.ok.inj done)
      rw [List.map_cons, List.map_cons, List.map_cons, lexeme_of_isSymbol closes]
      exact .one stands

/-- Names in parentheses that are read come from tokens that list them. -/
theorem lists_of_readNames {o : Token} {us rest : List Token}
    (read : readNames (o :: us) = .ok (names, rest)) :
    Lists names (us.map lexeme) (rest.map lexeme) := by
  obtain ⟨inside, opened, done⟩ := bind_eq_ok read
  obtain ⟨_, same, -⟩ := of_expectSymbol opened
  obtain ⟨-, rfl⟩ := List.cons.inj same
  obtain ⟨⟨tokens, behind⟩, ofNames, done⟩ := bind_eq_ok done
  obtain ⟨left, closed, done⟩ := bind_eq_ok done
  obtain ⟨rfl, rfl⟩ := Prod.mk.inj (Except.ok.inj done)
  obtain ⟨close, rfl, closes⟩ := of_expectSymbol closed
  exact lists_of_readList ofNames closes

/-! ## Names that are read as themselves -/

/-- What stands behind a blank is cut as if it stood alone, without the gap that it starts with. -/
theorem lexemes_blank (cs : List Char) : lexemes (' ' :: cs) = lexemes (cs.dropWhile isGap) := by
  have length : (shape (' ' :: cs)) = (none, 1 + (cs.takeWhile isGap).length) := rfl
  rw [lexemes_cons cs (by decide), length]
  simp only [Option.map_none, Option.toList_none, List.nil_append]
  rw [Nat.max_eq_right (by omega), Nat.add_comm, List.drop_succ_cons]
  refine congrArg lexemes ?_
  calc cs.drop (cs.takeWhile isGap).length
      = (cs.takeWhile isGap ++ cs.dropWhile isGap).drop (cs.takeWhile isGap).length := by
        rw [List.takeWhile_append_dropWhile]
    _ = cs.dropWhile isGap := List.drop_left

/-- Where the first of some names is read from the end of a text that starts with it, nothing is left
out and it is read as itself, or all that stands behind it is read from less. -/
theorem of_first_name {u behind : List Char} {symbol : Char} (noBlank : symbol ≠ ' ')
    (ends : u <:+ name.toList ++ symbol :: ' ' :: behind)
    (cut : lexemes u = l :: (.symbol, [symbol]) :: ls) (stands : StandsFor l name) :
    ∃ w, lexemes w = ls ∧
      (w = ' ' :: behind ∧ u = name.toList ++ symbol :: w ∧ IsBareName name ∨
        symbol :: w <:+ behind) := by
  obtain ⟨gap, more, rfl, present, cutMore, isWord⟩ := of_lexemes cut
  obtain ⟨gap', w, rfl, -, cutRest, -⟩ := of_lexemes cutMore
  obtain ⟨least, whole⟩ := of_standsFor stands present
  obtain ⟨before, ends⟩ := ends
  refine ⟨w, cutRest, ?_⟩
  have sides : (before ++ gap ++ l.2 ++ gap') ++ (symbol :: w) =
      name.toList ++ (symbol :: ' ' :: behind) := by
    simpa using ends
  rcases List.append_eq_append_iff.1 sides with ⟨as, longer, rest⟩ | ⟨bs, longer, rest⟩
  · -- no more than the name stands before the symbol: it is the token
    have lengths := congrArg List.length longer
    simp only [List.length_append] at lengths
    obtain rfl : as = [] := List.length_eq_zero_iff.1 (by omega)
    obtain rfl : before = [] := List.length_eq_zero_iff.1 (by omega)
    obtain rfl : gap = [] := List.length_eq_zero_iff.1 (by omega)
    obtain rfl : gap' = [] := List.length_eq_zero_iff.1 (by omega)
    obtain ⟨isKind, source, free⟩ := whole (by omega)
    obtain rfl := (List.cons.inj rest).2
    exact .inl ⟨rfl, by rw [source]; rfl, source ▸ isWord isKind, free⟩
  · cases bs with
    | nil =>
      rw [List.append_nil] at longer
      have lengths := congrArg List.length longer
      simp only [List.length_append] at lengths
      obtain rfl : before = [] := List.length_eq_zero_iff.1 (by omega)
      obtain rfl : gap = [] := List.length_eq_zero_iff.1 (by omega)
      obtain rfl : gap' = [] := List.length_eq_zero_iff.1 (by omega)
      obtain ⟨isKind, source, free⟩ := whole (by omega)
      obtain rfl := (List.cons.inj rest).2
      exact .inl ⟨rfl, by rw [source]; rfl, source ▸ isWord isKind, free⟩
    | cons b bs =>
      obtain ⟨-, rest⟩ := List.cons.inj rest
      cases bs with
      | nil => exact absurd (List.cons.inj rest).1.symm noBlank
      | cons b bs => exact .inr ⟨bs, (List.cons.inj rest).2.symm⟩

/-- Some names with commas between them, and what stands behind them. -/
def listed : List String → List Char → List Char
  | [], behind => behind
  | [name], behind => name.toList ++ behind
  | name :: names, behind => name.toList ++ ',' :: ' ' :: listed names behind

/-- Names with commas between them are a text of their own in front of what is behind. -/
theorem listed_eq (names : List String) (behind : List Char) :
    listed names behind = (", ".intercalate names).toList ++ behind := by
  match names with
  | [] => rfl
  | [name] => simp [listed]
  | name :: next :: names =>
    rw [listed.eq_3 behind name (next :: names) nofun, listed_eq (next :: names) behind]
    simp

/-- Where some names are read from the end of a text that lists them, they are words that are not kept
for the grammar and nothing is left out: otherwise the token behind them would be read from what is
behind the list, and that is missing one of its characters. -/
theorem of_lists {u behind : List Char} {d x : Char}
    (ends : u <:+ listed names (')' :: ' ' :: x :: behind)) (lists : Lists names (lexemes u) (l :: rest))
    (known : d ∈ l.2) (absent : d ∉ behind) :
    u = listed names (')' :: ' ' :: x :: behind) ∧ ∀ name ∈ names, IsBareName name := by
  induction names generalizing u with
  | nil => cases lists
  | cons name names ih =>
    generalize cut : lexemes u = ls at lists
    cases lists with
    | one stands =>
      obtain ⟨w, rest, ⟨rfl, whole, bare⟩ | short⟩ := of_first_name (by decide) ends cut stands
      · exact ⟨whole, by simpa using bare⟩
      · obtain ⟨gap, more, rfl, -⟩ := of_lexemes rest
        have shorter : gap ++ (l.2 ++ more) <:+ behind := by
          rcases List.suffix_cons_iff.1 short with whole | shorter
          · exact ⟨[], (List.cons.inj whole).2⟩
          · exact (List.suffix_cons _ _).trans shorter
        exact absurd (shorter.subset (by simp [known])) absent
    | more stands lists =>
      rename_i others
      have several : names ≠ [] := by
        rintro rfl
        cases lists
      rw [listed.eq_3 _ name names several] at ends ⊢
      obtain ⟨w, rest, ⟨rfl, whole, bare⟩ | short⟩ := of_first_name (by decide) ends cut stands
      · rw [lexemes_blank] at rest
        subst rest
        obtain ⟨-, others⟩ := ih (List.dropWhile_suffix _) lists
        exact ⟨whole, List.forall_mem_cons.2 ⟨bare, others⟩⟩
      · subst rest
        obtain ⟨same, -⟩ := ih ((List.suffix_cons _ _).trans short) lists
        have longer := short.length_le
        rw [same, List.length_cons] at longer
        omega

end Lists

end Registrar.Sql
