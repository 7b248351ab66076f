import Registrar.Proofs.Sql.Closing
import Registrar.Sql.Parser

/-!
# Sealed texts

A sealed text is closed, holds a known number of marks and no other parameters, and does not end a
statement.  Sealed texts are put together with blanks, commas and parentheses, which adds up their
marks.  Text that a caller writes is sealed if `isSealed` says so; text made of names, points, commas
and signs of equality always is.
-/

namespace Registrar.Sql

open Registrar.Text Token

/-- Characters that are cut off from what follows, with a number of marks, without other parameters
and without the end of a statement. -/
structure Sealed (n : Nat) (cs : List Char) : Prop where
  cuts : Cuts cs
  unnamed : Unnamed (lexemes cs)
  count : parameterCount (lexemes cs) = n
  unended : (.symbol, [';']) ∉ lexemes cs

/-- Whether a text is closed and has neither parameters nor the end of a statement among its
tokens. -/
def Token.isSealed (text : String) : Bool :=
  isClosed text && (scan text).all fun t => t.kind != .parameter && !t.isSymbol ";"

namespace Sealed

variable {m n : Nat} {cs ds : List Char}

/-- No characters are sealed. -/
theorem nil : Sealed 0 [] :=
  ⟨.nil, nofun, rfl, nofun⟩

/-- A mark is sealed. -/
theorem mark : Sealed 1 "?".toList where
  cuts := by
    have closed : isClosed "?" = true := by decide
    exact cuts_of_isClosed closed
  unnamed := by
    intro l mem _
    exact List.mem_singleton.1 mem
  count := by decide
  unended := by decide

/-- Sealed texts with a blank between them are sealed. -/
theorem spaced (first : Sealed m cs) (second : Sealed n ds) : Sealed (m + n) (cs ++ ' ' :: ds) := by
  have parts := first.cuts.lexemes_spaced second.cuts
  refine ⟨first.cuts.spaced second.cuts, ?_, ?_, ?_⟩
  · rw [parts]
    exact first.unnamed.append second.unnamed
  · rw [parts, parameterCount_append, first.count, second.count]
  · rw [parts, List.mem_append]
    exact fun mem => mem.elim first.unended second.unended

/-- Sealed texts with a comma and a blank between them are sealed. -/
theorem comma (first : Sealed m cs) (second : Sealed n ds) :
    Sealed (m + n) (cs ++ ',' :: ' ' :: ds) := by
  have parts := first.cuts.lexemes_comma second.cuts
  have noParameter : TokenKind.symbol ≠ .parameter := by decide
  refine ⟨first.cuts.comma second.cuts, ?_, ?_, ?_⟩
  · rw [parts]
    exact first.unnamed.append (second.unnamed.cons (.inl noParameter))
  · simp [parts, first.count, second.count]
  · have other : ((.symbol, [';']) : TokenKind × List Char) ≠ (.symbol, [',']) := by decide
    simp [parts, first.unended, second.unended]

/-- A sealed text in parentheses is sealed. -/
theorem enclosed (inside : Sealed n cs) : Sealed n ('(' :: (cs ++ [')'])) := by
  have parts := inside.cuts.lexemes_enclosed
  refine ⟨inside.cuts.enclosed, ?_, ?_, ?_⟩
  · rw [parts]
    exact inside.unnamed.enclosed
  · simp [parts, inside.count]
  · simp [parts, inside.unended]

/-- Sealed texts with a blank between them make a sealed one. -/
theorem spacedText {a b : String} (first : Sealed m a.toList) (second : Sealed n b.toList) :
    Sealed (m + n) (a ++ " " ++ b).toList := by
  have whole := first.spaced second
  have text : (a ++ " " ++ b).toList = a.toList ++ ' ' :: b.toList := by simp
  rwa [← text] at whole

/-- Sealed texts with a comma and a blank between them make a sealed one. -/
theorem commaText {a b : String} (first : Sealed m a.toList) (second : Sealed n b.toList) :
    Sealed (m + n) (a ++ ", " ++ b).toList := by
  have whole := first.comma second
  have text : (a ++ ", " ++ b).toList = a.toList ++ ',' :: ' ' :: b.toList := by simp
  rwa [← text] at whole

/-- A sealed text in parentheses makes a sealed one. -/
theorem enclosedText {a : String} (inside : Sealed n a.toList) :
    Sealed n ("(" ++ a ++ ")").toList := by
  have whole := inside.enclosed
  have text : ("(" ++ a ++ ")").toList = '(' :: (a.toList ++ [')']) := by simp
  rwa [← text] at whole

end Sealed

namespace Token

/-- The characters of names, and the signs between the names in a statement. -/
def isSilent (c : Char) : Bool :=
  startsIdentifier c || isDigit c || [' ', '.', ',', '='].contains c

/-- A number is in its text. -/
theorem numberShape_le (cs : List Char) : (numberShape cs).2 ≤ cs.length := by
  have plain := plainNumberShape_le cs
  have trailing :=
    (List.takeWhile_sublist isNameChar (l := cs.drop (plainNumberShape cs).2)).length_le
  rw [List.length_drop] at trailing
  unfold numberShape
  dsimp only
  split
  · exact plain
  · dsimp only
    omega

/-- A number is no parameter. -/
theorem numberShape_ne_parameter (cs : List Char) : (numberShape cs).1 ≠ .parameter := by
  have decimal : ∀ cs, (decimalShape cs).1 ≠ .parameter := by
    intro cs
    simp only [decimalShape_eq]
    split <;> decide
  have plain : (plainNumberShape cs).1 ≠ .parameter := by
    unfold plainNumberShape
    split
    · split
      · simp
      · exact decimal _
    · exact decimal _
  unfold numberShape
  dsimp only
  split
  · exact plain
  · simp

/-- What silent characters start with is no parameter, and does not take a blank behind them unless
it is a gap. -/
theorem shape_of_isSilent {c : Char} {cs : List Char} (first : isSilent c = true)
    (others : ∀ d ∈ cs, isSilent d = true) :
    (shape (c :: cs)).1 ≠ some .parameter ∧
      (startsGap c = true ∨ (shape (c :: cs ++ [' '])).2 ≤ cs.length + 1) := by
  have isBreak : Breaks [' '] := show ' ' ∈ breakers by decide
  by_cases gap : startsGap c = true
  · refine ⟨?_, .inl gap⟩
    simp [shape, gap]
  rw [Bool.not_eq_true] at gap
  cases name : startsName c with
  | true =>
    have noQuote : ∀ more, Breaks more → ∀ tail, cs ++ more ≠ '\x27' :: tail := by
      intro more breaks tail same
      cases cs with
      | nil => exact ne_of_breaks (by decide) breaks tail same
      | cons d cs =>
        obtain rfl : d = '\x27' := (List.cons.inj same).1
        exact absurd (others _ List.mem_cons_self) (by decide)
    have alone := shape_word gap name fun _ => List.append_nil cs ▸ noQuote [] trivial
    have blank := shape_word gap name fun _ => noQuote _ isBreak
    have fits := (List.takeWhile_sublist isNameChar (l := cs)).length_le
    rw [takeWhile_append_of_breaks isNameChar_of_breaker cs isBreak] at blank
    rw [List.cons_append, alone, blank]
    refine ⟨by simp, .inr ?_⟩
    dsimp only
    omega
  | false =>
    cases digit : isDigit c with
    | true =>
      have same := numberShape_append (c :: cs) isBreak
      rw [List.cons_append] at same
      rw [List.cons_append, shape_digit gap name digit, shape_digit gap name digit, same]
      refine ⟨?_, .inr (numberShape_le (c :: cs))⟩
      simpa using numberShape_ne_parameter (c :: cs)
    | false =>
      have known : c = '.' ∨ c = ',' ∨ c = '=' := by
        have noIdentifier : startsIdentifier c = false := by
          rw [← Bool.not_eq_true]
          intro valid
          rw [startsName_of_startsIdentifier valid] at name
          cases name
        have noBlank : c ≠ ' ' := by
          rintro rfl
          cases gap
        simpa [isSilent, noIdentifier, digit, noBlank] using first
      obtain rfl | rfl | rfl := known
      · rw [List.cons_append, shape_point cs isBreak, shape_point_eq cs]
        split
        · exact ⟨by simpa using numberShape_ne_parameter _, .inr (numberShape_le _)⟩
        · exact ⟨by simp, .inr (by simp)⟩
      · have symbol : ∀ more, shape (',' :: more) = (some .symbol, 1) :=
          fun more => shape_other gap name digit (by decide)
        rw [List.cons_append, symbol, symbol]
        exact ⟨by simp, .inr (by simp)⟩
      · have pair := fun more => shape_pair (show ('=', ['=']) ∈ pairs by decide) more
        rw [List.cons_append, pair, pair, any_head?_append (forall_of_all (by decide)) cs isBreak]
        cases cs with
        | nil => exact ⟨by simp, .inr (by simp)⟩
        | cons d cs =>
          split
          · exact ⟨by simp, .inr (by simp)⟩
          · exact ⟨by simp, .inr (by simp)⟩

/-- Silent characters are closed, and none of their tokens is a parameter or ends a statement. -/
theorem closedFrom_of_isSilent {fuel : Nat} {cs : List Char} (enough : cs.length ≤ fuel)
    (silent : ∀ c ∈ cs, isSilent c = true) (start : Nat) :
    closedFrom fuel cs = true ∧
      ∀ t ∈ scanAt start cs, t.kind ≠ .parameter ∧ lexeme t ≠ (.symbol, [';']) := by
  induction fuel generalizing cs start with
  | zero =>
    obtain rfl : cs = [] := List.eq_nil_of_length_eq_zero (by omega)
    exact ⟨rfl, nofun⟩
  | succ fuel ih =>
    cases cs with
    | nil => exact ⟨rfl, nofun⟩
    | cons c cs =>
      have first := silent c List.mem_cons_self
      have present : c ≠ '\x00' := by
        rintro rfl
        exact absurd first (by decide)
      obtain ⟨noParameter, fits⟩ :=
        shape_of_isSilent first fun d mem => silent d (List.mem_cons_of_mem c mem)
      have shorter : ∀ n, ((c :: cs).drop (max 1 n)).length ≤ fuel := by
        intro n
        simp only [List.length_drop, List.length_cons] at enough ⊢
        omega
      have behind := fun n => ih (shorter n) fun d mem => silent d (List.mem_of_mem_drop mem)
      constructor
      · rw [closedFrom, Bool.and_eq_true, Bool.and_eq_true, Bool.or_eq_true]
        exact ⟨⟨by simpa using present, by simpa using fits⟩, (behind _ start).1⟩
      · intro t mem
        rw [scanAt_cons start cs present] at mem
        rcases List.mem_append.1 mem with here | later
        · simp only [Option.mem_toList, Option.map_eq_some_iff] at here
          obtain ⟨kind, known, rfl⟩ := here
          refine ⟨fun same => noParameter (same ▸ known), ?_⟩
          intro same
          have source := congrArg (fun l => l.2.head?) same
          rw [lexeme, List.head?_take, if_neg (by omega)] at source
          obtain rfl : c = ';' := Option.some.inj source
          exact absurd first (by decide)
        · exact (behind _ _).2 t later

end Token

/-- A text without parameters, and without the end of a statement, has no marks. -/
theorem sealed_of_plain {cs : List Char} (cuts : Cuts cs)
    (plain : ∀ t ∈ scanAt 0 cs, t.kind ≠ .parameter ∧ lexeme t ≠ (.symbol, [';'])) :
    Sealed 0 cs := by
  have none : ∀ l ∈ lexemes cs, l.1 ≠ .parameter ∧ l ≠ (.symbol, [';']) := by
    intro l mem
    obtain ⟨t, among, rfl⟩ := List.mem_map.1 mem
    exact plain t among
  refine ⟨cuts, ?_, ?_, fun mem => (none _ mem).2 rfl⟩
  · exact fun l mem parameter => absurd parameter (none l mem).1
  · rw [parameterCount, List.countP_eq_zero]
    exact fun l mem => by simpa using (none l mem).1

/-- A text that is found sealed is. -/
theorem sealed_of_isSealed {text : String} (found : isSealed text = true) :
    Sealed 0 text.toList := by
  rw [isSealed, Bool.and_eq_true, List.all_eq_true] at found
  obtain ⟨closed, none⟩ := found
  refine sealed_of_plain (cuts_of_isClosed closed) ?_
  intro t among
  have given := none t among
  rw [Bool.and_eq_true, bne_iff_ne, Bool.not_eq_true'] at given
  obtain ⟨noParameter, noEnd⟩ := given
  refine ⟨noParameter, ?_⟩
  intro same
  have kind : t.kind = .symbol := congrArg Prod.fst same
  have source : t.source = [';'] := congrArg Prod.snd same
  simp [Token.isSymbol, Token.text, kind, source] at noEnd

/-- What holds of the characters of some texts and of a separator holds of those of the texts with the
separator between neighbours. -/
theorem forall_mem_intercalate {p : Char → Prop} {separator : String}
    (between : ∀ c ∈ separator.toList, p c) {parts : List String}
    (all : ∀ part ∈ parts, ∀ c ∈ part.toList, p c) :
    ∀ c ∈ (separator.intercalate parts).toList, p c := by
  induction parts with
  | nil => exact nofun
  | cons part parts ih =>
    have first := all part List.mem_cons_self
    have others := ih fun part mem => all part (List.mem_cons_of_mem _ mem)
    cases parts with
    | nil => simpa using first
    | cons next parts =>
      intro c mem
      rw [String.intercalate_cons_cons, String.toList_append, String.toList_append, List.mem_append,
        List.mem_append] at mem
      exact mem.elim (fun mem => mem.elim (first c) (between c)) (others c)

/-- Text of nothing but silent characters. -/
def Silent (text : String) : Prop :=
  ∀ c ∈ text.toList, isSilent c = true

namespace Silent

variable {a b : String}

instance (text : String) : Decidable (Silent text) :=
  decidable_of_iff (text.toList.all isSilent = true) List.all_eq_true

/-- Silent texts behind each other are silent. -/
theorem append (first : Silent a) (second : Silent b) : Silent (a ++ b) := by
  intro c mem
  rw [String.toList_append, List.mem_append] at mem
  exact mem.elim (first c) (second c)

/-- Silent texts with a silent separator between neighbours are silent. -/
theorem intercalate {separator : String} (between : Silent separator) {parts : List String}
    (all : ∀ part ∈ parts, Silent part) : Silent (separator.intercalate parts) :=
  forall_mem_intercalate between all

/-- There is no mark in a silent text. -/
theorem unmarked (silent : Silent a) : '?' ∉ a.toList := by
  intro mem
  exact absurd (silent _ mem) (by decide)

/-- A silent text is sealed. -/
theorem isSealed (silent : Silent a) : Sealed 0 a.toList := by
  have begins : a.toList.head? ≠ some '\x0b' := by
    intro first
    exact absurd (silent _ (List.mem_of_mem_head? first)) (by decide)
  obtain ⟨closed, plain⟩ := closedFrom_of_isSilent (Nat.le_refl _) silent 0
  exact sealed_of_plain ⟨begins, fun start _ breaks => scanAt_of_closedFrom closed start breaks⟩ plain

/-- An identifier is silent. -/
theorem identifier {name : String} (valid : isIdentifier name = true) : Silent name := by
  have all : ∀ cs : List Char, isIdentifierChars cs = true → ∀ c ∈ cs, isSilent c = true := by
    intro cs valid c mem
    cases cs with
    | nil => cases mem
    | cons d cs =>
      rw [isIdentifierChars, Bool.and_eq_true, List.all_eq_true] at valid
      rcases List.mem_cons.1 mem with rfl | mem
      · rw [isSilent, valid.1, Bool.true_or, Bool.true_or]
      · rw [isSilent, valid.2 c mem, Bool.true_or]
  exact all _ valid

/-- The digits of a number are silent. -/
theorem number (n : Nat) : Silent (Number.intText n) := by
  intro c mem
  rw [Number.toList_intText] at mem
  rw [isSilent, Number.isDigit_of_mem_natDigits mem, Bool.or_true, Bool.true_or]

end Silent

/-- A text without quotes is quoted up to the quote behind it. -/
theorem quotedLength_of_not_mem {quote : Char} {cs rest : List Char} (plain : quote ∉ cs)
    (single : ∀ tail, rest ≠ quote :: tail) :
    quotedLength quote (cs ++ quote :: rest) = some (cs.length + 1) := by
  induction cs with
  | nil =>
    cases rest with
    | nil => simp [quotedLength]
    | cons d rest =>
      have other : d ≠ quote := fun same => single rest (same ▸ rfl)
      simp [quotedLength, other]
  | cons c cs ih =>
    have other : c ≠ quote := fun same => plain (same ▸ List.mem_cons_self)
    have behind := ih fun mem => plain (List.mem_cons_of_mem c mem)
    cases cs with
    | nil =>
      rw [List.nil_append] at behind
      simp [quotedLength, other, behind]
    | cons d cs =>
      rw [List.cons_append] at behind
      simp [quotedLength, other, behind]

/-- A name in backquotes is one token, unless another backquote stands behind it. -/
theorem scanAt_backquoted {name : List Char} (valid : isIdentifierChars name = true) (start : Nat)
    {rest : List Char} (single : ∀ tail, rest ≠ '\x60' :: tail) :
    scanAt start ('\x60' :: (name ++ ['\x60']) ++ rest) =
      ⟨.bracketedName, '\x60' :: (name ++ ['\x60']), start, 0⟩ ::
        scanAt (start + byteLength ('\x60' :: (name ++ ['\x60']))) rest := by
  have plain : '\x60' ∉ name := by
    cases name with
    | nil => exact nofun
    | cons c cs =>
      rw [isIdentifierChars, Bool.and_eq_true, List.all_eq_true] at valid
      intro mem
      rcases List.mem_cons.1 mem with rfl | mem
      · exact absurd valid.1 (by decide)
      · exact absurd (valid.2 _ mem) (by decide)
  have shaped : ∀ more, shape ('\x60' :: more) =
      (some (quotedShape .bracketedName '\x60' more).1,
        (quotedShape .bracketedName '\x60' more).2) := fun _ => rfl
  have length := quotedLength_of_not_mem plain single
  have whole : shape ('\x60' :: (name ++ ['\x60']) ++ rest) =
      (some .bracketedName, (name ++ ['\x60']).length + 1) := by
    rw [List.cons_append, List.append_assoc, List.singleton_append, shaped, quotedShape, length]
    simp
  exact scanAt_append start _ '\x60' _ rest (by decide) whole

/-- A name in backquotes is sealed. -/
theorem sealed_backquoted {name : List Char} (valid : isIdentifierChars name = true) :
    Sealed 0 ('\x60' :: (name ++ ['\x60'])) := by
  have alone : ∀ start, scanAt start ('\x60' :: (name ++ ['\x60'])) =
      [⟨.bracketedName, '\x60' :: (name ++ ['\x60']), start, 0⟩] := by
    intro start
    have cut := scanAt_backquoted valid start (show ∀ tail, [] ≠ '\x60' :: tail from nofun)
    rwa [List.append_nil] at cut
  refine sealed_of_plain ⟨by simp, ?_⟩ ?_
  · intro start rest breaks
    rw [scanAt_backquoted valid start (ne_of_breaks (by decide) breaks), alone]
    rfl
  · intro t mem
    rw [alone] at mem
    obtain rfl := List.mem_singleton.1 mem
    exact ⟨by simp, by simp [lexeme]⟩

end Registrar.Sql
