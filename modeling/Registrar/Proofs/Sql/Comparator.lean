import Registrar.Clause
import Registrar.Proofs.Sql.Scanning
import Registrar.Sql.Parser

/-!
# Operators of comparison

The operators that compare a column with a value or ask for membership in a list, and the ways to
write them: one to four words or one symbol, words in any case, with any blanks of a statement
between them.  `Comparator.ofText?` reads an operator as a caller writes it, and `spells_operator`
says that a statement cuts it into the tokens of its words.
-/

namespace Registrar.Sql

open Registrar.Text Token

/-- An operator that compares a column with a value, or asks for membership in a list. -/
inductive Comparator where
  | relation (op : BinaryOp)
  | pattern (kind : PatternKind) (negated : Bool)
  | member (negated : Bool)
deriving DecidableEq

/-- What a token of an operator is and how it is written, its letters as capitals. -/
abbrev Spelling := TokenKind × String

/-- A word of an operator. -/
def keyword (word : String) : Spelling :=
  (.word, word)

/-- A symbol of an operator. -/
def symbol (symbol : String) : Spelling :=
  (.symbol, symbol)

namespace Comparator

/-- The operators, each with all ways to write it. -/
def table : List (List Spelling × Comparator) :=
  [([symbol "="], .relation .eq), ([symbol "=="], .relation .eq),
   ([symbol "<>"], .relation .ne), ([symbol "!="], .relation .ne),
   ([symbol "<"], .relation .lt), ([symbol "<="], .relation .le),
   ([symbol ">"], .relation .gt), ([symbol ">="], .relation .ge),
   ([keyword "IS"], .relation .is),
   ([keyword "IS", keyword "NOT"], .relation .isNot),
   ([keyword "IS", keyword "DISTINCT", keyword "FROM"], .relation .isNot),
   ([keyword "IS", keyword "NOT", keyword "DISTINCT", keyword "FROM"], .relation .is),
   ([keyword "LIKE"], .pattern .like false),
   ([keyword "NOT", keyword "LIKE"], .pattern .like true),
   ([keyword "GLOB"], .pattern .glob false),
   ([keyword "NOT", keyword "GLOB"], .pattern .glob true),
   ([keyword "IN"], .member false),
   ([keyword "NOT", keyword "IN"], .member true)]

/-- The operator that is written in a certain way. -/
def ofSpelling? (spelling : List Spelling) : Option Comparator :=
  (table.find? fun entry => entry.1 == spelling).map Prod.snd

/-- The spelling of a word of an operator's text. -/
def wordSpelling (word : String) : Spelling :=
  if word.toList.all isLetter then keyword (upperAscii word) else symbol word

/-- The operator that a text writes; only the blanks that a statement allows may stand between its
words. -/
def ofText? (operator : String) : Option Comparator :=
  if operator.toList.all (fun c => !isBlank c || startsGap c) then
    ofSpelling? ((words operator).map wordSpelling)
  else none

/-- Whether an operator asks for membership. -/
def isMember : Comparator → Bool
  | .member _ => true
  | _ => false

/-- An operator that is written in a certain way is in the table with it. -/
theorem mem_table_of_ofSpelling? {spelling : List Spelling} {comparator : Comparator}
    (known : ofSpelling? spelling = some comparator) : (spelling, comparator) ∈ table := by
  obtain ⟨entry, found, rfl⟩ := Option.map_eq_some_iff.1 known
  have same := List.find?_some found
  have mem := List.mem_of_find?_eq_some found
  simp only [beq_iff_eq] at same
  rwa [← same]

/-- A text that writes an operator has only blanks of a statement, and its words spell the
operator. -/
theorem of_ofText? {operator : String} {comparator : Comparator}
    (known : ofText? operator = some comparator) :
    (∀ c ∈ operator.toList, isBlank c = true → startsGap c = true) ∧
      ((words operator).map wordSpelling, comparator) ∈ table := by
  unfold ofText? at known
  split at known
  · next blanks =>
    refine ⟨fun c mem blank => ?_, mem_table_of_ofSpelling? known⟩
    have allowed := List.all_eq_true.1 blanks c mem
    simpa [blank] using allowed
  · cases known

end Comparator

open Comparator

/-- What a token is and how it is written, the letters of words as capitals. -/
def Token.spelling (t : Token) : Spelling :=
  if t.kind = .word then keyword (upperAscii t.text) else (t.kind, t.text)

/-- The token of a word of an operator. -/
def wordLexeme (word : String) : TokenKind × List Char :=
  ((wordSpelling word).1, word.toList)

/-- A word in capitals that consists of letters is an identifier in any case. -/
theorem isIdentifierChars_of_letters {cs : List Char} (present : cs ≠ [])
    (letters : cs.all isLetter = true) : isIdentifierChars cs = true := by
  cases cs with
  | nil => exact absurd rfl present
  | cons c cs =>
    simp only [List.all_cons, Bool.and_eq_true, List.all_eq_true] at letters
    simp only [isIdentifierChars, startsIdentifier, letters.1, Bool.true_or, Bool.true_and,
      List.all_eq_true]
    intro d mem
    rw [letters.2 d mem, Bool.true_or, Bool.true_or]

/-- Every word of an operator in the table is one token. -/
theorem spells_word {word : String} {spelling : List Spelling} {comparator : Comparator}
    (known : (spelling, comparator) ∈ table) (mem : wordSpelling word ∈ spelling)
    (present : word.toList ≠ []) : Spells word.toList [wordLexeme word] := by
  unfold wordLexeme
  unfold wordSpelling at mem ⊢
  by_cases letters : word.toList.all isLetter = true
  · rw [if_pos letters]
    exact spells_identifier (isIdentifierChars_of_letters present letters)
  · rw [if_neg letters] at mem ⊢
    have symbols : ∀ entry ∈ table, ∀ s ∈ entry.1, s.1 = .symbol → s.2 ∈ comparisonSymbols := by
      decide
    exact spells_symbol (symbols (spelling, comparator) known (symbol word) mem rfl)

/-- Characters made up of words with blanks of a statement around and between them. -/
inductive Spaced : List Char → List (List Char) → Prop where
  | nil : Spaced [] []
  | blank {c cs ws} : startsGap c = true → Spaced cs ws → Spaced (c :: cs) ws
  | last {w} : w ≠ [] → Spaced w [w]
  | word {w c cs ws} : w ≠ [] → startsGap c = true → Spaced cs ws →
      Spaced (w ++ c :: cs) (w :: ws)

/-- Prepends characters to the first of some pieces. -/
def prependFirst (w : List Char) : List (List Char) → List (List Char)
  | [] => [w]
  | piece :: pieces => (w ++ piece) :: pieces

/-- Nothing prepended changes nothing, since a text is cut into one piece at least. -/
theorem prependFirst_nil (cut : Char → Bool) (cs : List Char) :
    prependFirst [] (splitWhere cut cs) = splitWhere cut cs := by
  cases cs with
  | nil => rfl
  | cons c cs =>
    unfold splitWhere
    split
    · rfl
    · cases splitWhere cut cs <;> rfl

/-- Cutting at blanks leaves the words that the blanks stand between. -/
theorem spaced_splitWhere {cs : List Char}
    (blanks : ∀ c ∈ cs, isBlank c = true → startsGap c = true) (w : List Char) :
    Spaced (w ++ cs)
      ((prependFirst w (splitWhere isBlank cs)).filter fun piece => !piece.isEmpty) := by
  induction cs generalizing w with
  | nil =>
    cases w with
    | nil => exact .nil
    | cons c w => simpa [splitWhere, prependFirst] using Spaced.last (List.cons_ne_nil c w)
  | cons c cs ih =>
    have rest : ∀ d ∈ cs, isBlank d = true → startsGap d = true :=
      fun d mem => blanks d (List.mem_cons_of_mem c mem)
    by_cases blank : isBlank c = true
    · have gap := blanks c List.mem_cons_self blank
      have behind := ih rest []
      rw [prependFirst_nil] at behind
      cases w with
      | nil => simpa [splitWhere, blank, prependFirst] using Spaced.blank gap behind
      | cons d w =>
        simpa [splitWhere, blank, prependFirst] using
          Spaced.word (List.cons_ne_nil d w) gap behind
    · have longer := ih rest (w ++ [c])
      have same : prependFirst w (splitWhere isBlank (c :: cs)) =
          prependFirst (w ++ [c]) (splitWhere isBlank cs) := by
        simp only [splitWhere, blank]
        cases splitWhere isBlank cs <;> simp [consFirst, prependFirst]
      rw [same]
      simpa using longer

/-- Words with blanks between them are cut into their tokens, between two other texts. -/
theorem Spaced.spells {cs : List Char} {ws : List (List Char)} (spaced : Spaced cs ws)
    {lexeme : List Char → TokenKind × List Char} (each : ∀ w ∈ ws, Spells w [lexeme w])
    {as bs : List Char} {ls ms : List (TokenKind × List Char)} (first : Spells as ls)
    (second : Spells bs ms) {gap : List Char} (blank : ∀ c ∈ gap, startsGap c = true)
    (present : gap ≠ []) :
    Spells (as ++ gap ++ cs ++ ' ' :: bs) (ls ++ ws.map lexeme ++ ms) := by
  induction spaced generalizing as ls gap with
  | nil =>
    have wider : ∀ c ∈ gap ++ [' '], startsGap c = true := by
      intro c mem
      rcases List.mem_append.1 mem with mem | mem
      · exact blank c mem
      · obtain rfl := List.mem_singleton.1 mem
        decide
    simpa using first.blanks second wider (by simp)
  | @blank c cs ws isGap _ ih =>
    have wider : ∀ d ∈ gap ++ [c], startsGap d = true := by
      intro d mem
      rcases List.mem_append.1 mem with mem | mem
      · exact blank d mem
      · obtain rfl := List.mem_singleton.1 mem
        exact isGap
    simpa using ih each first wider (by simp)
  | @last w _ =>
    have word := each w List.mem_cons_self
    simpa using (first.blanks word blank present).blank second
  | @word w c cs ws _ isGap _ ih =>
    have word := each w List.mem_cons_self
    have others : ∀ v ∈ ws, Spells v [lexeme v] := fun v mem => each v (List.mem_cons_of_mem w mem)
    have single : ∀ d ∈ [c], startsGap d = true := by
      intro d mem
      obtain rfl := List.mem_singleton.1 mem
      exact isGap
    simpa using ih others (first.blanks word blank present) single (by simp)

/-- An operator between two texts is cut into the tokens of its words. -/
theorem spells_operator {operator : String} {comparator : Comparator}
    (known : ofText? operator = some comparator) {as bs : List Char}
    {ls ms : List (TokenKind × List Char)} (first : Spells as ls) (second : Spells bs ms) :
    Spells (as ++ ' ' :: operator.toList ++ ' ' :: bs)
      (ls ++ (words operator).map wordLexeme ++ ms) := by
  obtain ⟨blanks, inTable⟩ := of_ofText? known
  have spaced := spaced_splitWhere blanks []
  rw [prependFirst_nil, List.nil_append] at spaced
  have each : ∀ w ∈ (splitWhere isBlank operator.toList).filter fun piece => !piece.isEmpty,
      Spells w [wordLexeme (String.ofList w)] := by
    intro w mem
    have present : w ≠ [] := by
      have kept := (List.mem_filter.1 mem).2
      simpa using kept
    have isWord : String.ofList w ∈ words operator := List.mem_map_of_mem mem
    have spelled := spells_word inTable (List.mem_map_of_mem isWord) (by simpa using present)
    rwa [String.toList_ofList] at spelled
  have cut := spaced.spells each first second startsGap_blank (by decide)
  have lexemes : (words operator).map wordLexeme =
      ((splitWhere isBlank operator.toList).filter fun piece => !piece.isEmpty).map
        fun w => wordLexeme (String.ofList w) := by
    simp [words]
  rw [lexemes]
  simpa using cut

/-- Writing in capitals goes through the characters. -/
@[simp] theorem toList_upperAscii (s : String) : (upperAscii s).toList = s.toList.map upperChar :=
  String.toList_ofList

/-- A capital is blank if the character is. -/
theorem isBlank_upperChar (c : Char) : isBlank (upperChar c) = isBlank c := by
  unfold upperChar
  split
  · next small =>
    have least : 97 ≤ c.toNat := small.1
    have most : c.toNat ≤ 122 := small.2
    have valid : (c.toNat - 32).isValidChar := .inl (by omega)
    have value : (Char.ofNat (c.toNat - 32)).toNat = c.toNat - 32 := by
      rw [Char.ofNat, dif_pos valid]
      rfl
    rw [Bool.eq_iff_iff]
    simp only [isBlank, value, Bool.or_eq_true, Bool.and_eq_true, beq_iff_eq, decide_eq_true_eq]
    omega
  · rfl

/-- Writing in capitals goes through texts with a separator between them. -/
theorem upperAscii_intercalate (separator : String) (parts : List String) :
    upperAscii (separator.intercalate parts) =
      (upperAscii separator).intercalate (parts.map upperAscii) := by
  have append : ∀ a b : String, upperAscii (a ++ b) = upperAscii a ++ upperAscii b := by
    intro a b
    apply String.toList_inj.1
    simp
  induction parts with
  | nil => simp [upperAscii, mapChars]
  | cons part parts ih =>
    cases parts with
    | nil => simp
    | cons next parts =>
      rw [String.intercalate_cons_cons, append, append, ih, List.map_cons, List.map_cons,
        List.map_cons, String.intercalate_cons_cons]

/-- A word of an operator in the table is written in capitals as the table writes it. -/
theorem upperAscii_eq_wordSpelling {word : String} {spelling : List Spelling}
    {comparator : Comparator} (known : (spelling, comparator) ∈ table)
    (mem : wordSpelling word ∈ spelling) : upperAscii word = (wordSpelling word).2 := by
  unfold wordSpelling at mem ⊢
  by_cases letters : word.toList.all isLetter = true
  · rw [if_pos letters]
    rfl
  · rw [if_neg letters] at mem ⊢
    have kept : ∀ entry ∈ table, ∀ s ∈ entry.1, s.1 = .symbol → upperAscii s.2 = s.2 := by
      decide
    exact kept (spelling, comparator) known (symbol word) mem rfl

/-- An operator asks for membership exactly when it is taken to do so where a condition is
written. -/
theorem isMembership_eq_isMember {operator : String} {comparator : Comparator}
    (known : ofText? operator = some comparator) :
    isMembership operator = comparator.isMember := by
  obtain ⟨-, inTable⟩ := of_ofText? known
  have capitals : (words operator).map upperAscii =
      ((words operator).map wordSpelling).map Prod.snd := by
    rw [List.map_map]
    exact List.map_congr_left fun word mem =>
      upperAscii_eq_wordSpelling inTable (List.mem_map_of_mem mem)
  have decided : ∀ entry ∈ table,
      (" ".intercalate (entry.1.map Prod.snd) == "IN" ||
        " ".intercalate (entry.1.map Prod.snd) == "NOT IN") = entry.2.isMember := by
    decide
  have blank : upperAscii " " = " " := by decide
  simp only [isMembership, upperAscii_intercalate, blank, capitals]
  exact decided ((words operator).map wordSpelling, comparator) inTable

end Registrar.Sql
