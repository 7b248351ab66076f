import Registrar.Identifier
import Registrar.Sql.Token

/-!
# Scanning the text of a condition

The tokens that a text is cut into, said without the fuel that bounds the cutting, and joined from
the tokens of its parts.  `Spells cs ls` says that some characters are cut into tokens of the kinds
and sources `ls` wherever they stand, as long as what follows them starts with a blank, a comma or
a closing parenthesis.  Names, words, symbols and marks spell a single token; the lemmas below put
them together as conditions do.
-/

namespace Registrar.Sql

open Registrar.Text

namespace Token

/-- The tokens of characters that start at a place. -/
def scanAt (start : Nat) (cs : List Char) : List Token :=
  scanFrom cs.length start cs

/-- Fuel beyond the length of the text changes nothing: every token and gap takes a character. -/
theorem scanFrom_eq_scanFrom (fuel more start : Nat) (cs : List Char) (enough : cs.length ≤ fuel)
    (plenty : cs.length ≤ more) : scanFrom fuel start cs = scanFrom more start cs := by
  induction fuel generalizing more start cs with
  | zero =>
    obtain rfl : cs = [] := List.eq_nil_of_length_eq_zero (by omega)
    cases more <;> rfl
  | succ fuel ih =>
    cases cs with
    | nil => cases more <;> rfl
    | cons c cs =>
      cases more with
      | zero => simp at plenty
      | succ more =>
        simp only [List.length_cons] at enough plenty
        have shorter : ((c :: cs).drop (max 1 (shape (c :: cs)).2)).length ≤ cs.length := by
          simp only [List.length_drop, List.length_cons]
          omega
        have rest := ih more
          (start + byteLength ((c :: cs).take (max 1 (shape (c :: cs)).2)))
          ((c :: cs).drop (max 1 (shape (c :: cs)).2)) (by omega) (by omega)
        simp only [scanFrom, rest]

/-- No characters make no tokens. -/
@[simp] theorem scanAt_nil (start : Nat) : scanAt start [] = [] :=
  rfl

/-- Characters that start with a token or a gap are that token, or none, and the tokens of the
rest. -/
theorem scanAt_append (start : Nat) (kind : Option TokenKind) (c : Char) (source rest : List Char)
    (present : c ≠ '\x00') (shaped : shape (c :: source ++ rest) = (kind, source.length + 1)) :
    scanAt start (c :: source ++ rest) =
      (kind.map fun kind => ⟨kind, c :: source, start, 0⟩).toList ++
        scanAt (start + byteLength (c :: source)) rest := by
  have length : max 1 (source.length + 1) = source.length + 1 := by omega
  have taken : (c :: (source ++ rest)).take (source.length + 1) = c :: source := by simp
  have left : (c :: (source ++ rest)).drop (source.length + 1) = rest := by simp
  have again := scanFrom_eq_scanFrom (source ++ rest).length rest.length
    (start + byteLength (c :: source)) rest (by simp) (Nat.le_refl _)
  simp only [List.cons_append] at shaped ⊢
  simp only [scanAt, List.length_cons, scanFrom, shaped, beq_iff_eq, present, if_false, length,
    taken, left, again]
  cases kind <;> rfl

/-- What a token is and how it is written. -/
def lexeme (t : Token) : TokenKind × List Char :=
  (t.kind, t.source)

/-- What is decided of each character of a list holds of all of them. -/
theorem forall_of_all {cs : List Char} {p : Char → Prop} [DecidablePred p]
    (each : (cs.all fun c => p c) = true) : ∀ c ∈ cs, p c := by
  simpa using each

/-- The characters that end names, operators and marks in the text of a condition. -/
def breakers : List Char :=
  [' ', '\t', '\n', '\x0c', '\r', ',', ')']

/-- Whether a text that goes on so ends the name, operator or mark before it. -/
def Breaks : List Char → Prop
  | [] => True
  | c :: _ => c ∈ breakers

/-- Blanks between tokens end what is before them. -/
theorem mem_breakers_of_startsGap {c : Char} (gap : startsGap c = true) : c ∈ breakers := by
  simp only [startsGap, Bool.or_eq_true, beq_iff_eq] at gap
  obtain (((rfl | rfl) | rfl) | rfl) | rfl := gap <;> decide

/-- A blank is a gap. -/
theorem startsGap_blank : ∀ c ∈ [' '], startsGap c = true :=
  List.all_eq_true.1 (by decide)

/-- The characters that end names go on with no name. -/
theorem isNameChar_of_breaker : ∀ b ∈ breakers, isNameChar b = false :=
  forall_of_all (by decide)

/-- The characters that end marks go on with no number. -/
theorem isDigit_of_breaker : ∀ b ∈ breakers, isDigit b = false :=
  forall_of_all (by decide)

/-- What goes on with characters of a kind does not go on with one that ends it, if that is of
another kind. -/
theorem takeWhile_of_breaks {p : Char → Bool} (others : ∀ b ∈ breakers, p b = false)
    {rest : List Char} (breaks : Breaks rest) : rest.takeWhile p = [] := by
  cases rest with
  | nil => rfl
  | cons c rest => simp [others c breaks]

/-- What goes on with characters of a kind stops where others stand. -/
theorem takeWhile_append_of_stops {p : Char → Bool} (cs : List Char) {rest : List Char}
    (stops : rest.takeWhile p = []) : (cs ++ rest).takeWhile p = cs.takeWhile p := by
  induction cs with
  | nil => rw [List.nil_append, stops, List.takeWhile_nil]
  | cons c cs ih => simp only [List.cons_append, List.takeWhile_cons, ih]

/-- What starts like a name is a word up to the first character that no name goes on with, unless
it is a text of bytes. -/
theorem shape_word {c : Char} {cs : List Char} (gap : startsGap c = false)
    (starts : startsName c = true) (unquoted : c = 'x' ∨ c = 'X' → ∀ tail, cs ≠ '\x27' :: tail) :
    shape (c :: cs) = (some .word, 1 + (cs.takeWhile isNameChar).length) := by
  simp only [shape, gap, starts, Bool.false_eq_true, if_false, if_true]
  split
  · rename_i tail
    exact absurd rfl (unquoted (.inl rfl) tail)
  · rename_i tail
    exact absurd rfl (unquoted (.inr rfl) tail)
  · rfl

end Token

open Token

/-- Characters that are cut into tokens of certain kinds and sources wherever they stand, provided
that what follows breaks them off. -/
structure Spells (cs : List Char) (ls : List (TokenKind × List Char)) : Prop where
  /-- They do not start with a gap. -/
  begins : ∃ c rest, cs = c :: rest ∧ isGap c = false
  /-- They are cut off from what follows. -/
  scans : ∀ start rest, Breaks rest →
    ∃ ts : List Token, ts.map lexeme = ls ∧
      scanAt start (cs ++ rest) = ts ++ scanAt (start + byteLength cs) rest

/-- What may start an identifier may start a name. -/
theorem startsName_of_startsIdentifier {c : Char} (valid : startsIdentifier c = true) :
    startsName c = true := by
  rw [startsIdentifier] at valid
  rw [startsName, valid, Bool.true_or]

/-- The characters of an identifier are characters of a name. -/
theorem isNameChar_of_identifier {c : Char} (valid : (startsIdentifier c || isDigit c) = true) :
    isNameChar c = true := by
  rcases Bool.or_eq_true_iff.1 valid with first | digit
  · rw [isNameChar, startsName_of_startsIdentifier first, Bool.true_or, Bool.true_or]
  · rw [isNameChar, digit, Bool.or_true, Bool.true_or]

/-- A character is not a gap if its code is beyond that of a blank. -/
theorem isGap_eq_false {c : Char} (beyond : 0x20 < c.toNat) : isGap c = false := by
  have other : ∀ d : Char, d.toNat ≤ 0x20 → c ≠ d := by
    rintro d below rfl
    omega
  simp [isGap, startsGap, other]

/-- The first character of an identifier is a letter or an underscore. -/
theorem code_of_startsIdentifier {c : Char} (valid : startsIdentifier c = true) :
    0x41 ≤ c.toNat := by
  simp only [startsIdentifier, isLetter, Bool.or_eq_true, Bool.and_eq_true, decide_eq_true_eq,
    beq_iff_eq] at valid
  obtain (⟨lower, -⟩ | ⟨lower, -⟩) | rfl := valid
  · exact Nat.le_trans (by decide) (show 'a'.toNat ≤ c.toNat from lower)
  · exact show 'A'.toNat ≤ c.toNat from lower
  · decide

/-- Characters that a text starts with as one token, whatever breaks them off, spell it. -/
theorem Spells.of_shape {kind : TokenKind} {c : Char} {source : List Char}
    (noGap : isGap c = false) (present : c ≠ '\x00')
    (shaped : ∀ rest, Breaks rest → shape (c :: source ++ rest) = (some kind, source.length + 1)) :
    Spells (c :: source) [(kind, c :: source)] where
  begins := ⟨c, source, rfl, noGap⟩
  scans := fun start rest breaks =>
    ⟨[⟨kind, c :: source, start, 0⟩], rfl,
      scanAt_append start _ c source rest present (shaped rest breaks)⟩

/-- The first character of an identifier is no gap. -/
theorem isGap_of_startsIdentifier {c : Char} (valid : startsIdentifier c = true) :
    isGap c = false := by
  have code := code_of_startsIdentifier valid
  exact isGap_eq_false (by omega)

/-- An identifier is one word wherever no name goes on and no quote stands behind it. -/
theorem shape_identifier {c : Char} {cs rest : List Char} (valid : isIdentifierChars (c :: cs) = true)
    (stops : rest.takeWhile isNameChar = []) (unquoted : ∀ tail, rest ≠ '\x27' :: tail) :
    shape (c :: cs ++ rest) = (some .word, cs.length + 1) := by
  simp only [isIdentifierChars, Bool.and_eq_true, List.all_eq_true] at valid
  obtain ⟨first, others⟩ := valid
  have noStart : startsGap c = false := by
    have noGap := isGap_of_startsIdentifier first
    rw [isGap, Bool.or_eq_false_iff] at noGap
    exact noGap.1
  have whole : (cs ++ rest).takeWhile isNameChar = cs := by
    rw [List.takeWhile_append_of_pos fun d mem => isNameChar_of_identifier (others d mem), stops,
      List.append_nil]
  have noQuote : ∀ tail, cs ++ rest ≠ '\x27' :: tail := by
    intro tail same
    cases cs with
    | nil => exact unquoted tail same
    | cons d cs =>
      obtain rfl : d = '\x27' := (List.cons.inj same).1
      exact absurd (others '\x27' List.mem_cons_self) (by decide)
  rw [List.cons_append, shape_word noStart (startsName_of_startsIdentifier first) fun _ => noQuote,
    whole, Nat.add_comm]

/-- A text does not break off what stands before it with a character that is no breaker. -/
theorem ne_of_breaks {c : Char} (other : c ∉ breakers) {rest : List Char} (breaks : Breaks rest)
    (tail : List Char) : rest ≠ c :: tail := by
  rintro rfl
  exact other breaks

/-- An identifier is one word. -/
theorem spells_identifier {cs : List Char} (valid : isIdentifierChars cs = true) :
    Spells cs [(.word, cs)] := by
  cases cs with
  | nil => simp [isIdentifierChars] at valid
  | cons c cs =>
    have first : startsIdentifier c = true := by
      rw [isIdentifierChars, Bool.and_eq_true] at valid
      exact valid.1
    have present : c ≠ '\x00' := by
      rintro rfl
      exact absurd first (by decide)
    refine Spells.of_shape (isGap_of_startsIdentifier first) present ?_
    intro rest breaks
    exact shape_identifier valid (takeWhile_of_breaks isNameChar_of_breaker breaks)
      (ne_of_breaks (by decide) breaks)

/-- A text that begins with a word and a blank has that word as its first token. -/
theorem scan_of_word {text : String} {word rest : List Char} (valid : isIdentifierChars word = true)
    (begins : text.toList = word ++ ' ' :: rest) :
    ∃ t ts, scan text = t :: ts ∧ t.kind = .word ∧ t.source = word := by
  obtain ⟨ts, kinds, cut⟩ :=
    (spells_identifier valid).scans 0 (' ' :: rest) (show ' ' ∈ breakers by decide)
  obtain ⟨t, none, rfl, first, last⟩ := List.map_eq_cons_iff.1 kinds
  obtain rfl := List.map_eq_nil_iff.1 last
  rw [← begins, List.singleton_append] at cut
  exact ⟨t, _, cut, congrArg Prod.fst first, congrArg Prod.snd first⟩

/-- The symbols of comparison. -/
def comparisonSymbols : List String :=
  ["=", "==", "<>", "!=", "<", "<=", ">", ">="]

/-- A symbol of comparison is one token. -/
theorem spells_symbol {symbol : String} (known : symbol ∈ comparisonSymbols) :
    Spells symbol.toList [(.symbol, symbol.toList)] := by
  have shaped : ∀ symbol ∈ comparisonSymbols, ∀ rest, Breaks rest →
      shape (symbol.toList ++ rest) = (some .symbol, symbol.toList.length) := by
    intro symbol known rest breaks
    simp only [comparisonSymbols, List.mem_cons, List.not_mem_nil, or_false] at known
    cases rest with
    | nil => obtain rfl | rfl | rfl | rfl | rfl | rfl | rfl | rfl := known <;> rfl
    | cons d rest =>
      simp only [Breaks, breakers, List.mem_cons, List.not_mem_nil, or_false] at breaks
      obtain rfl | rfl | rfl | rfl | rfl | rfl | rfl | rfl := known <;>
        obtain rfl | rfl | rfl | rfl | rfl | rfl | rfl := breaks <;> rfl
  have begins : ∀ symbol ∈ comparisonSymbols, ∃ c source, symbol.toList = c :: source ∧
      isGap c = false ∧ c ≠ '\x00' := by
    intro symbol known
    simp only [comparisonSymbols, List.mem_cons, List.not_mem_nil, or_false] at known
    obtain rfl | rfl | rfl | rfl | rfl | rfl | rfl | rfl := known <;>
      exact ⟨_, _, rfl, by decide, by decide⟩
  obtain ⟨c, source, written, noGap, present⟩ := begins symbol known
  have whole := shaped symbol known
  rw [written] at whole ⊢
  exact Spells.of_shape noGap present whole

/-- The mark of a parameter. -/
def mark : TokenKind × List Char :=
  (.parameter, ['?'])

/-- The mark of a parameter is one token. -/
theorem spells_mark : Spells ['?'] [mark] := by
  refine Spells.of_shape (by decide) (by decide) ?_
  intro rest breaks
  have shaped : shape ('?' :: rest) = (some .parameter, 1 + (rest.takeWhile isDigit).length) := rfl
  rw [List.cons_append, List.nil_append, shaped, takeWhile_of_breaks isDigit_of_breaker breaks]
  rfl

/-- A single symbol that is a token whatever follows it. -/
theorem scanAt_symbol (start : Nat) {c : Char} (known : c ∈ ['(', ')', ',']) (rest : List Char) :
    scanAt start (c :: rest) =
      ⟨.symbol, [c], start, 0⟩ :: scanAt (start + byteLength [c]) rest := by
  have shaped : shape (c :: [] ++ rest) = (some .symbol, 1) := by
    simp only [List.mem_cons, List.not_mem_nil, or_false] at known
    obtain rfl | rfl | rfl := known <;> rfl
  have present : c ≠ '\x00' := by
    rintro rfl
    exact absurd known (by decide)
  exact scanAt_append start _ c [] rest present shaped

/-- Nothing has no bytes. -/
@[simp] theorem byteLength_nil : byteLength [] = 0 :=
  rfl

/-- The bytes of a text are those of its first character and of the others. -/
@[simp] theorem byteLength_cons (c : Char) (cs : List Char) :
    byteLength (c :: cs) = c.utf8Size + byteLength cs :=
  rfl

/-- The place behind two texts. -/
@[simp] theorem byteLength_append (cs ds : List Char) :
    byteLength (cs ++ ds) = byteLength cs + byteLength ds := by
  induction cs with
  | nil => exact (Nat.zero_add _).symm
  | cons c cs ih => rw [List.cons_append, byteLength_cons, byteLength_cons, ih, Nat.add_assoc]

/-- A gap is passed over with all the blanks behind it. -/
theorem scanAt_gap (start : Nat) {c : Char} (gap : startsGap c = true) (cs : List Char) :
    scanAt start (c :: cs) =
      scanAt (start + byteLength (c :: cs.takeWhile isGap)) (cs.dropWhile isGap) := by
  have present : c ≠ '\x00' := by
    rintro rfl
    exact absurd gap (by decide)
  have shaped : shape (c :: cs.takeWhile isGap ++ cs.dropWhile isGap) =
      (none, (cs.takeWhile isGap).length + 1) := by
    simp only [List.cons_append, List.takeWhile_append_dropWhile, shape, gap, if_true, Nat.add_comm 1]
  have passed := scanAt_append start none c _ _ present shaped
  rwa [List.cons_append, List.takeWhile_append_dropWhile] at passed

/-- A gap is passed over, up to characters that may start a gap or a token. -/
theorem scanAt_gaps (start : Nat) {c : Char} {gap cs : List Char} (starts : startsGap c = true)
    (goes : ∀ d ∈ gap, isGap d = true) (begins : cs.head? ≠ some '\x0b') :
    scanAt start (c :: gap ++ cs) = scanAt (start + byteLength (c :: gap)) cs := by
  rw [List.cons_append, scanAt_gap start starts, List.takeWhile_append_of_pos goes,
    List.dropWhile_append_of_pos goes]
  cases cs with
  | nil => rfl
  | cons d cs =>
    cases again : startsGap d with
    | true =>
      have isMore : isGap d = true := by rw [isGap, again, Bool.true_or]
      rw [scanAt_gap _ again, List.takeWhile_cons_of_pos isMore, List.dropWhile_cons_of_pos isMore]
      simp [Nat.add_assoc]
    | false =>
      have stops : isGap d = false := by
        have other : d ≠ '\x0b' := fun same => begins (by rw [same, List.head?_cons])
        simp [isGap, again, other]
      simp [stops]

/-- Blanks are passed over, up to characters that may start a gap or a token. -/
theorem scanAt_blanks (start : Nat) {gap cs : List Char} (blank : ∀ c ∈ gap, startsGap c = true)
    (begins : cs.head? ≠ some '\x0b') :
    scanAt start (gap ++ cs) = scanAt (start + byteLength gap) cs := by
  cases gap with
  | nil => rfl
  | cons g gap =>
    have goes : ∀ d ∈ gap, isGap d = true := by
      intro d mem
      rw [isGap, blank d (List.mem_cons_of_mem g mem), Bool.true_or]
    exact scanAt_gaps start (blank g List.mem_cons_self) goes begins

namespace Spells

variable {cs ds : List Char} {ls ms : List (TokenKind × List Char)}

/-- A text that spells tokens may stand behind blanks. -/
theorem head? (spells : Spells cs ls) (rest : List Char) : (cs ++ rest).head? ≠ some '\x0b' := by
  obtain ⟨c, tail, rfl, noGap⟩ := spells.begins
  intro same
  obtain rfl : c = '\x0b' := Option.some.inj same
  exact absurd noGap (by decide)

/-- Texts with blanks between them are cut apart. -/
theorem blanks (first : Spells cs ls) (second : Spells ds ms) {gap : List Char}
    (blank : ∀ c ∈ gap, startsGap c = true) (present : gap ≠ []) :
    Spells (cs ++ gap ++ ds) (ls ++ ms) := by
  obtain ⟨c, tail, written, noGap⟩ := first.begins
  refine ⟨⟨c, tail ++ gap ++ ds, by simp [written], noGap⟩, ?_⟩
  intro start rest breaks
  obtain ⟨g, gaps, rfl⟩ := List.exists_cons_of_ne_nil present
  have broken : Breaks (g :: gaps ++ ds ++ rest) :=
    mem_breakers_of_startsGap (blank g List.mem_cons_self)
  obtain ⟨ts, kinds, cut⟩ := first.scans start _ broken
  obtain ⟨us, others, cut'⟩ :=
    second.scans (start + byteLength cs + byteLength (g :: gaps)) rest breaks
  have skipped := scanAt_blanks (start + byteLength cs) blank (second.head? rest)
  refine ⟨ts ++ us, by simp [kinds, others], ?_⟩
  simp only [List.append_assoc] at cut cut' skipped ⊢
  rw [cut, skipped, cut', byteLength_append, byteLength_append, Nat.add_assoc, Nat.add_assoc]

/-- Texts with a blank between them are cut apart. -/
theorem blank (first : Spells cs ls) (second : Spells ds ms) :
    Spells (cs ++ ' ' :: ds) (ls ++ ms) := by
  have joined := first.blanks second startsGap_blank (by decide)
  rwa [List.append_assoc] at joined

/-- Texts with a comma and a blank between them are cut apart. -/
theorem comma (first : Spells cs ls) (second : Spells ds ms) :
    Spells (cs ++ ',' :: ' ' :: ds) (ls ++ (.symbol, [',']) :: ms) := by
  obtain ⟨c, tail, written, noGap⟩ := first.begins
  refine ⟨⟨c, tail ++ ',' :: ' ' :: ds, by simp [written], noGap⟩, ?_⟩
  intro start rest breaks
  obtain ⟨ts, kinds, cut⟩ := first.scans start (',' :: ' ' :: ds ++ rest)
    (show ',' ∈ breakers by decide)
  obtain ⟨us, others, cut'⟩ := second.scans
    (start + byteLength cs + byteLength [','] + byteLength [' ']) rest breaks
  have skipped := scanAt_blanks (start + byteLength cs + byteLength [',']) startsGap_blank
    (second.head? rest)
  have symbol := scanAt_symbol (start + byteLength cs) (c := ',') (by decide) (' ' :: ds ++ rest)
  refine ⟨ts ++ ⟨.symbol, [','], start + byteLength cs, 0⟩ :: us,
    by simp [kinds, others, lexeme], ?_⟩
  simp only [List.append_assoc, List.cons_append, List.nil_append] at cut cut' skipped symbol ⊢
  rw [cut, symbol, skipped, cut', byteLength_append]
  simp [Nat.add_assoc]

/-- A text in parentheses is cut off by them. -/
theorem enclosed (inside : Spells cs ls) :
    Spells ('(' :: cs ++ [')']) ((.symbol, ['(']) :: ls ++ [(.symbol, [')'])]) := by
  refine ⟨⟨'(', cs ++ [')'], rfl, by decide⟩, ?_⟩
  intro start rest _
  obtain ⟨ts, kinds, cut⟩ := inside.scans (start + byteLength ['(']) (')' :: rest)
    (show ')' ∈ breakers by decide)
  have opening := scanAt_symbol start (c := '(') (by decide) (cs ++ ')' :: rest)
  have closing := scanAt_symbol (start + byteLength ['('] + byteLength cs) (c := ')')
    (by decide) rest
  refine ⟨⟨.symbol, ['('], start, 0⟩ ::
    (ts ++ [⟨.symbol, [')'], start + byteLength ['('] + byteLength cs, 0⟩]),
    by simp [kinds, lexeme], ?_⟩
  simp only [List.append_assoc, List.cons_append, List.nil_append] at cut opening closing ⊢
  rw [opening, cut, closing]
  simp [Nat.add_assoc]

/-- Empty parentheses are two tokens. -/
theorem parentheses : Spells ['(', ')'] [(.symbol, ['(']), (.symbol, [')'])] := by
  refine ⟨⟨'(', [')'], rfl, by decide⟩, ?_⟩
  intro start rest _
  have opening := scanAt_symbol start (c := '(') (by decide) (')' :: rest)
  have closing := scanAt_symbol (start + byteLength ['(']) (c := ')') (by decide) rest
  refine ⟨[⟨.symbol, ['('], start, 0⟩, ⟨.symbol, [')'], start + byteLength ['('], 0⟩], rfl, ?_⟩
  simp only [List.cons_append, List.nil_append]
  rw [opening, closing]
  simp [Nat.add_assoc]

end Spells

end Registrar.Sql
