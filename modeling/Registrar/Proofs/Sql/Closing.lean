import Registrar.Proofs.Sql.Breaking
import Registrar.Proofs.Sql.Numbering

/-!
# Closed texts

Text that a caller writes keeps its tokens in a statement if it is closed: no comment, quoted text or
name in brackets is left open, so that it would run on into what stands behind it.  `isClosed`
decides that from the text alone, by looking whether a blank behind the text would belong to one of
its tokens or comments.  `Cuts` says what follows from it, and carries over to texts with blanks,
commas and parentheses between and around them: the tokens of the whole are those of its parts, at
the places where the parts stand.
-/

namespace Registrar.Sql

open Registrar.Text

namespace Token

/-- Whether none of the tokens and comments of some characters takes a blank behind them. -/
def closedFrom : Nat → List Char → Bool
  | _, [] => true
  | 0, _ :: _ => false
  | fuel + 1, c :: cs =>
    let length := (shape (c :: cs ++ [' '])).2
    c != '\x00' && (startsGap c || length ≤ cs.length + 1) &&
      closedFrom fuel ((c :: cs).drop (max 1 length))

/-- Whether a text has the same tokens wherever it stands: none of them takes a blank behind the
text, and a blank before the text does not take its first character. -/
def isClosed (text : String) : Bool :=
  text.toList.head? != some '\x0b' && closedFrom text.toList.length text.toList

/-- A token at a place further on. -/
def shifted (distance : Nat) (t : Token) : Token :=
  { t with start := t.start + distance }

/-- What the characters at a place are cut into: a token or a gap, and the tokens behind it. -/
theorem scanAt_cons (start : Nat) {c : Char} (cs : List Char) (present : c ≠ '\x00') :
    scanAt start (c :: cs) =
      ((shape (c :: cs)).1.map fun kind =>
        ⟨kind, (c :: cs).take (max 1 (shape (c :: cs)).2), start, 0⟩).toList ++
      scanAt (start + byteLength ((c :: cs).take (max 1 (shape (c :: cs)).2)))
        ((c :: cs).drop (max 1 (shape (c :: cs)).2)) := by
  have again := scanFrom_eq_scanFrom cs.length
    ((c :: cs).drop (max 1 (shape (c :: cs)).2)).length
    (start + byteLength ((c :: cs).take (max 1 (shape (c :: cs)).2)))
    ((c :: cs).drop (max 1 (shape (c :: cs)).2))
    (by simp only [List.length_drop, List.length_cons]; omega) (Nat.le_refl _)
  simp only [scanAt, List.length_cons, scanFrom, beq_iff_eq, present, if_false, again]
  cases (shape (c :: cs)).1 <;> rfl

/-- The tokens of characters further on are further on. -/
theorem scanAt_add (start distance : Nat) (cs : List Char) :
    scanAt (start + distance) cs = (scanAt start cs).map (shifted distance) := by
  suffices shifts : ∀ fuel start (cs : List Char),
      scanFrom fuel (start + distance) cs = (scanFrom fuel start cs).map (shifted distance) from
    shifts cs.length start cs
  intro fuel
  induction fuel with
  | zero => intro start cs; rfl
  | succ fuel ih =>
    intro start cs
    cases cs with
    | nil => rfl
    | cons c cs =>
      unfold scanFrom
      by_cases null : (c == '\x00') = true
      · rw [if_pos null, if_pos null, List.map_nil]
      · rw [if_neg null, if_neg null]
        simp only [Nat.add_right_comm start distance, ih]
        cases (shape (c :: cs)).1 <;> rfl

/-- The kinds and sources of the tokens of some characters. -/
def lexemes (cs : List Char) : List (TokenKind × List Char) :=
  (scanAt 0 cs).map lexeme

/-- What the tokens of characters are does not depend on their place. -/
theorem map_lexeme_scanAt (start : Nat) (cs : List Char) :
    (scanAt start cs).map lexeme = lexemes cs := by
  have moved := scanAt_add 0 start cs
  rw [Nat.zero_add] at moved
  rw [moved, List.map_map]
  rfl

/-- What breaks off the text before it does not go on with a gap at its end. -/
theorem Breaks.head? {rest : List Char} (breaks : Breaks rest) : rest.head? ≠ some '\x0b' := by
  cases rest with
  | nil => exact nofun
  | cons b rest =>
    intro same
    obtain rfl : b = '\x0b' := Option.some.inj same
    have none : '\x0b' ∉ breakers := by decide
    exact none breaks

/-- Characters that are closed have the same tokens whatever breaks them off. -/
theorem scanAt_of_closedFrom {fuel : Nat} {cs : List Char} (closed : closedFrom fuel cs = true)
    (start : Nat) {rest : List Char} (breaks : Breaks rest) :
    scanAt start (cs ++ rest) = scanAt start cs ++ scanAt (start + byteLength cs) rest := by
  induction fuel generalizing start cs with
  | zero =>
    cases cs with
    | nil => rfl
    | cons c cs => cases closed
  | succ fuel ih =>
    cases cs with
    | nil => rfl
    | cons c cs =>
      rw [closedFrom, Bool.and_eq_true, Bool.and_eq_true] at closed
      obtain ⟨⟨present, fits⟩, behind⟩ := closed
      have present : c ≠ '\x00' := by simpa using present
      by_cases gap : startsGap c = true
      · have goes : ∀ d ∈ cs.takeWhile isGap, isGap d = true :=
          List.all_eq_true.1 List.all_takeWhile
        have parts := List.takeWhile_append_dropWhile (p := isGap) (l := cs)
        generalize cs.takeWhile isGap = gaps at goes parts
        cases left : cs.dropWhile isGap with
        | nil =>
          -- the gap may go on behind the characters
          rw [left, List.append_nil] at parts
          subst parts
          have alone := scanAt_gaps start gap goes (show [].head? ≠ some '\x0b' from nofun)
          rw [List.append_nil, scanAt_nil] at alone
          rw [scanAt_gaps start gap goes breaks.head?, alone, List.nil_append]
        | cons d more =>
          have stops : isGap d = false := by
            have first := List.head?_dropWhile_not isGap cs
            simpa [left] using first
          rw [left] at parts
          subst parts
          have begins : ∀ tail, (d :: more ++ tail).head? ≠ some '\x0b' := by
            intro tail same
            obtain rfl : d = '\x0b' := Option.some.inj same
            exact absurd stops (by decide)
          have length : (shape (c :: (gaps ++ d :: more) ++ [' '])).2 = gaps.length + 1 := by
            simp only [List.cons_append, List.append_assoc, shape, gap, if_true]
            rw [List.takeWhile_append_of_pos goes, List.takeWhile_cons_of_neg (by simp [stops]),
              List.append_nil, Nat.add_comm]
          rw [length, Nat.max_eq_right (by omega), List.drop_succ_cons, List.drop_left] at behind
          have first := scanAt_gaps start gap goes (begins rest)
          have alone := scanAt_gaps start gap goes (begins [])
          rw [List.append_nil] at alone
          have rest' := ih behind (start + byteLength (c :: gaps))
          rw [← List.cons_append, List.append_assoc, first, alone, rest', byteLength_append,
            Nat.add_assoc]
      · rw [Bool.not_eq_true] at gap
        have length : (shape (c :: cs ++ [' '])).2 ≤ cs.length + 1 := by simpa [gap] using fits
        have same := shape_append gap length breaks
        have noMore : Breaks [] := trivial
        have alone := shape_append gap length noMore
        rw [List.append_nil] at alone
        have fits : max 1 (shape (c :: cs ++ [' '])).2 ≤ (c :: cs).length := by
          rw [List.length_cons]
          omega
        rw [List.cons_append, scanAt_cons start _ present, scanAt_cons start cs present, alone,
          ← List.cons_append, same, List.take_append_of_le_length fits,
          List.drop_append_of_le_length fits, ih behind, List.append_assoc, Nat.add_assoc,
          ← byteLength_append, List.take_append_drop]

end Token

open Token

/-- Characters that have the same tokens wherever they stand, provided that what follows breaks them
off. -/
structure Cuts (cs : List Char) : Prop where
  /-- A blank before them does not take the first one. -/
  begins : cs.head? ≠ some '\x0b'
  /-- They are cut off from what follows. -/
  scans : ∀ start rest, Breaks rest →
    scanAt start (cs ++ rest) = scanAt start cs ++ scanAt (start + byteLength cs) rest

/-- A closed text has the same tokens wherever it stands. -/
theorem cuts_of_isClosed {text : String} (closed : isClosed text = true) : Cuts text.toList := by
  rw [isClosed, Bool.and_eq_true] at closed
  obtain ⟨begins, closed⟩ := closed
  exact ⟨by simpa using begins, fun start _ breaks => scanAt_of_closedFrom closed start breaks⟩

namespace Cuts

variable {cs ds : List Char}

/-- A blank before characters, and before what breaks them off, takes none of them. -/
theorem head? (cuts : Cuts cs) {rest : List Char} (breaks : Breaks rest) :
    (cs ++ rest).head? ≠ some '\x0b' := by
  cases cs with
  | nil => exact breaks.head?
  | cons c cs => exact cuts.begins

/-- No characters have no tokens. -/
theorem nil : Cuts [] :=
  ⟨nofun, fun _ _ _ => rfl⟩

/-- A blank before a text adds no token. -/
theorem scanAt_blank (start : Nat) (begins : cs.head? ≠ some '\x0b') :
    scanAt start (' ' :: cs) = scanAt (start + byteLength [' ']) cs :=
  scanAt_blanks start startsGap_blank begins

/-- A text may stand behind a blank. -/
theorem blank (cuts : Cuts cs) : Cuts (' ' :: cs) := by
  refine ⟨by simp, ?_⟩
  intro start rest breaks
  rw [List.cons_append, scanAt_blank start (cuts.head? breaks), scanAt_blank start cuts.begins,
    cuts.scans _ rest breaks]
  simp [Nat.add_assoc]

/-- A text may stand behind a parenthesis or a comma. -/
theorem symbol {c : Char} (known : c ∈ ['(', ')', ',']) (cuts : Cuts cs) : Cuts (c :: cs) := by
  constructor
  · rw [List.head?_cons]
    rintro same
    obtain rfl := Option.some.inj same
    exact absurd known (by decide)
  · intro start rest breaks
    rw [List.cons_append, scanAt_symbol start known, scanAt_symbol start known,
      cuts.scans _ rest breaks]
    simp [Nat.add_assoc]

/-- A text that breaks off the one before it is cut apart from it. -/
theorem append (first : Cuts cs) {c : Char} (isBreaker : c ∈ breakers) (second : Cuts (c :: ds)) :
    Cuts (cs ++ c :: ds) := by
  constructor
  · cases cs with
    | nil => exact second.begins
    | cons d cs => exact first.begins
  · intro start rest breaks
    have broken : Breaks (c :: ds) := isBreaker
    have broken' : Breaks (c :: ds ++ rest) := isBreaker
    rw [List.append_assoc, first.scans start _ broken, first.scans start _ broken',
      second.scans _ rest breaks, List.append_assoc, byteLength_append, Nat.add_assoc]

/-- Texts with a blank between them are cut apart. -/
theorem spaced (first : Cuts cs) (second : Cuts ds) : Cuts (cs ++ ' ' :: ds) :=
  first.append (by decide) second.blank

/-- Texts with a comma and a blank between them are cut apart. -/
theorem comma (first : Cuts cs) (second : Cuts ds) : Cuts (cs ++ ',' :: ' ' :: ds) :=
  first.append (by decide) (second.blank.symbol (by decide))

/-- A text in parentheses is cut off by them. -/
theorem enclosed (inside : Cuts cs) : Cuts ('(' :: (cs ++ [')'])) :=
  (inside.append (by decide) (nil.symbol (by decide))).symbol (by decide)

/-- The tokens of two texts with a blank between them are those of both. -/
theorem scanAt_spaced (first : Cuts cs) (second : Cuts ds) (start : Nat) :
    scanAt start (cs ++ ' ' :: ds) =
      scanAt start cs ++ scanAt (start + byteLength cs + byteLength [' ']) ds := by
  have broken : Breaks (' ' :: ds) := show ' ' ∈ breakers by decide
  rw [first.scans start _ broken, scanAt_blank _ second.begins]

/-- What the tokens of two texts are with a blank between them. -/
theorem lexemes_spaced (first : Cuts cs) (second : Cuts ds) :
    lexemes (cs ++ ' ' :: ds) = lexemes cs ++ lexemes ds := by
  rw [lexemes, first.scanAt_spaced second, List.map_append, map_lexeme_scanAt, map_lexeme_scanAt]

/-- What the tokens of two texts are with a comma between them. -/
theorem lexemes_comma (first : Cuts cs) (second : Cuts ds) :
    lexemes (cs ++ ',' :: ' ' :: ds) = lexemes cs ++ (.symbol, [',']) :: lexemes ds := by
  have broken : Breaks (',' :: ' ' :: ds) := show ',' ∈ breakers by decide
  rw [lexemes, first.scans 0 _ broken, scanAt_symbol _ (by decide), scanAt_blank _ second.begins,
    List.map_append, List.map_cons, map_lexeme_scanAt, map_lexeme_scanAt]
  rfl

/-- What the tokens of a text in parentheses are. -/
theorem lexemes_enclosed (inside : Cuts cs) :
    lexemes ('(' :: (cs ++ [')'])) = (.symbol, ['(']) :: (lexemes cs ++ [(.symbol, [')'])]) := by
  have broken : Breaks [')'] := show ')' ∈ breakers by decide
  rw [lexemes, scanAt_symbol _ (by decide), inside.scans _ _ broken,
    scanAt_symbol _ (by decide), List.map_cons, List.map_append, map_lexeme_scanAt]
  rfl

end Cuts

end Registrar.Sql
