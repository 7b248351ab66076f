import Registrar.Proofs.Sql.Comparison
import Registrar.Proofs.Sql.Counting
import Registrar.Proofs.Sql.Precedence
import Registrar.Proofs.Sql.Written

/-!
# Spelling of statements

What the texts of statements are cut into: besides words, marks and symbols of comparison there are
the star for all columns, names in backquotes, and columns of a table, with a point behind the table.
A text that spells tokens is a statement if these are read as one, and it needs as many parameters as
it has marks.
-/

namespace Registrar.Sql

open Registrar.Text Token

/-- What the token of a word is. -/
def word (text : String) : TokenKind × List Char :=
  (.word, text.toList)

/-- A word is no mark. -/
theorem word_ne_parameter (text : String) : (word text).1 ≠ .parameter :=
  nofun

/-- What the token of a name in backquotes is. -/
def backquoted (name : String) : TokenKind × List Char :=
  (.bracketedName, '\x60' :: (name.toList ++ ['\x60']))

/-- A name in backquotes is no mark. -/
theorem backquoted_ne_parameter (name : String) : (backquoted name).1 ≠ .parameter :=
  nofun

/-- What the token of the star is. -/
def star : TokenKind × List Char :=
  (.symbol, ['*'])

/-- What the token of the point is. -/
def point : TokenKind × List Char :=
  (.symbol, ['.'])

/-- What the token of a comma is. -/
def comma : TokenKind × List Char :=
  (.symbol, [','])

/-- What the token of the sign of equality is. -/
def equals : TokenKind × List Char :=
  (.symbol, ['='])

/-- The words of a statement are words. -/
theorem spells_name (text : String) (valid : isIdentifier text = true) :
    Spells text.toList [word text] :=
  spells_identifier valid

/-- The star is one token. -/
theorem spells_star : Spells ['*'] [star] :=
  Spells.of_shape (by decide) (by decide) fun _ _ => rfl

/-- The sign of equality is one token. -/
theorem spells_equals : Spells ['='] [equals] :=
  show Spells "=".toList [equals] from spells_symbol (by decide)

/-- A name in backquotes is one token. -/
theorem spells_backquoted {name : String} (valid : isIdentifier name = true) :
    Spells ('\x60' :: (name.toList ++ ['\x60'])) [backquoted name] where
  begins := ⟨'\x60', _, rfl, by decide⟩
  scans := fun start rest breaks =>
    ⟨[⟨.bracketedName, '\x60' :: (name.toList ++ ['\x60']), start, 0⟩], rfl,
      scanAt_backquoted valid start (ne_of_breaks (by decide) breaks)⟩

section Points

/-- A point before a name is one token. -/
theorem scanAt_point (start : Nat) {c : Char} (letter : startsIdentifier c = true)
    (rest : List Char) : scanAt start ('.' :: c :: rest) =
      ⟨.symbol, ['.'], start, 0⟩ :: scanAt (start + byteLength ['.']) (c :: rest) := by
  have code := code_of_startsIdentifier letter
  have noDigit : isDigit c = false := by
    rw [isDigit, Bool.and_eq_false_iff]
    refine .inr (decide_eq_false fun small => ?_)
    have last : c.toNat ≤ '9'.toNat := small
    have nine : '9'.toNat = 0x39 := by decide
    omega
  have shaped : shape ('.' :: [] ++ c :: rest) = (some .symbol, 1) := by
    have unfolded : shape ('.' :: c :: rest) =
        if isDigit c then
          (some (numberShape ('.' :: c :: rest)).1, (numberShape ('.' :: c :: rest)).2)
        else (some .symbol, 1) := rfl
    rw [List.cons_append, List.nil_append, unfolded, noDigit]
    rfl
  exact scanAt_append start _ '.' [] (c :: rest) (by decide) shaped

/-- What is one token before a point and a name, with these. -/
theorem spells_pointed {cs : List Char} {l : TokenKind × List Char}
    (begins : ∃ c rest, cs = c :: rest ∧ isGap c = false)
    (scans : ∀ start rest, ∃ t : Token, t.lexeme = l ∧
      scanAt start (cs ++ '.' :: rest) = t :: scanAt (start + byteLength cs) ('.' :: rest))
    {column : String} (valid : isIdentifier column = true) :
    Spells (cs ++ '.' :: column.toList) [l, point, word column] := by
  obtain ⟨c, tail, rfl, noGap⟩ := begins
  refine ⟨⟨c, tail ++ '.' :: column.toList, rfl, noGap⟩, fun start rest breaks => ?_⟩
  obtain ⟨t, first, cut⟩ := scans start (column.toList ++ rest)
  obtain ⟨us, last, cut'⟩ := (spells_name _ valid).scans
    (start + byteLength (c :: tail) + byteLength ['.']) rest breaks
  have pointed : ∀ place, scanAt place ('.' :: (column.toList ++ rest)) =
      ⟨.symbol, ['.'], place, 0⟩ :: scanAt (place + byteLength ['.']) (column.toList ++ rest) := by
    intro place
    unfold isIdentifier at valid
    generalize column.toList = ds at valid ⊢
    cases ds with
    | nil => cases valid
    | cons d ds =>
      rw [isIdentifierChars, Bool.and_eq_true] at valid
      exact scanAt_point place valid.1 (ds ++ rest)
  refine ⟨t :: ⟨.symbol, ['.'], start + byteLength (c :: tail), 0⟩ :: us, ?_, ?_⟩
  · simp only [List.map_cons, first, last]
    rfl
  · have joined : c :: tail ++ '.' :: column.toList ++ rest =
        c :: tail ++ '.' :: (column.toList ++ rest) := by simp
    rw [joined, cut, pointed, cut', byteLength_append, byteLength_cons '.']
    simp [Nat.add_assoc]

/-- A column of a table in backquotes is cut into its names and the point between them. -/
theorem spells_qualified {pair : String × String} (first : isIdentifier pair.1 = true)
    (second : isIdentifier pair.2 = true) :
    Spells ('\x60' :: (pair.1.toList ++ ['\x60']) ++ '.' :: pair.2.toList)
      [backquoted pair.1, point, word pair.2] := by
  refine spells_pointed (spells_backquoted first).begins (fun start rest => ?_) second
  exact ⟨_, rfl, scanAt_backquoted first start (by exact nofun)⟩

end Points

section Lists

variable {α : Type} {lexemes : α → List (TokenKind × List Char)} {items : List α}

/-- Parts with commas between them are cut into the tokens of the parts and the commas. -/
theorem spells_commas (part : α → String) (lexemes : α → List (TokenKind × List Char))
    (present : items ≠ [])
    (each : ∀ a ∈ items, Spells (part a).toList (lexemes a)) :
    Spells (", ".intercalate (items.map part)).toList ([comma].intercalate (items.map lexemes)) := by
  induction items with
  | nil => exact absurd rfl present
  | cons a items ih =>
    cases items with
    | nil => simpa using each a List.mem_cons_self
    | cons b items =>
      have others := ih (List.cons_ne_nil b items) fun c mem => each c (List.mem_cons_of_mem a mem)
      have joined := (each a List.mem_cons_self).comma others
      simpa [String.intercalate_cons_cons, List.intercalate_cons_cons, comma] using joined

/-- Parts without names have none with commas between them. -/
theorem unnamed_commas (each : ∀ a ∈ items, Unnamed (lexemes a)) :
    Unnamed ([comma].intercalate (items.map lexemes)) := by
  induction items with
  | nil => exact nofun
  | cons a items ih =>
    have others := ih fun c mem => each c (List.mem_cons_of_mem a mem)
    cases items with
    | nil => simpa using each a List.mem_cons_self
    | cons b items =>
      have separated : Unnamed (lexemes a ++ comma :: [comma].intercalate ((b :: items).map lexemes)) :=
        (each a List.mem_cons_self).append (others.cons (.inl (by decide)))
      simpa [List.intercalate_cons_cons] using separated

/-- Parts with as many parameters each have so many together. -/
theorem parameterCount_commas {n : Nat} (each : ∀ a ∈ items, parameterCount (lexemes a) = n) :
    parameterCount ([comma].intercalate (items.map lexemes)) = items.length * n := by
  induction items with
  | nil => simp [List.intercalate]
  | cons a items ih =>
    have others := ih fun c mem => each c (List.mem_cons_of_mem a mem)
    have first := each a List.mem_cons_self
    cases items with
    | nil => simpa using first
    | cons b items =>
      simp only [List.map_cons, List.intercalate_cons_cons, parameterCount_append, first,
        List.length_cons] at others ⊢
      rw [others]
      simp [comma, Nat.succ_mul]
      omega

end Lists

section Tokens

variable {t : Token} {text name : String}

/-- A token that is written as a word is a word of that text. -/
theorem of_word (written : t.lexeme = word text) : t.kind = .word ∧ t.text = text := by
  have kind : t.kind = .word := congrArg Prod.fst written
  have source : t.source = text.toList := congrArg Prod.snd written
  exact ⟨kind, by rw [Token.text, source, String.ofList_toList]⟩

/-- A word stands for its text. -/
theorem unquoted_of_word (written : t.lexeme = word text) : t.unquoted = text := by
  obtain ⟨kind, same⟩ := of_word written
  rw [← same]
  simp [Token.unquoted, Token.text, kind]

/-- A word is a keyword if its capitals are. -/
theorem isWord_of_word (written : t.lexeme = word text) (keyword : String) :
    t.isWord keyword = (upperAscii text == keyword) := by
  obtain ⟨kind, same⟩ := of_word written
  rw [Token.isWord, kind, same]
  rfl

/-- A word names something unless it is kept for the grammar. -/
theorem isName_of_word (written : t.lexeme = word text) : t.isName = !isReserved text := by
  obtain ⟨kind, same⟩ := of_word written
  rw [Token.isName, kind, same]

/-- Nothing in a name is a doubled quote if nothing in it is a quote. -/
theorem undouble_of_not_mem {quote : Char} {cs : List Char} (plain : quote ∉ cs) :
    undouble quote cs = cs := by
  induction cs using undouble.induct quote with
  | case1 c d cs both => exact absurd (both.1 ▸ List.mem_cons_self) plain
  | case2 c d cs _ ih =>
    rw [undouble, if_neg (by assumption), ih fun mem => plain (List.mem_cons_of_mem c mem)]
  | case3 cs short => exact undouble.eq_2 quote cs short

/-- A name in backquotes stands for the name. -/
theorem unquoted_of_backquoted (valid : isIdentifier name = true)
    (written : t.lexeme = backquoted name) : t.unquoted = name := by
  have kind : t.kind = .bracketedName := congrArg Prod.fst written
  have source : t.source = '\x60' :: (name.toList ++ ['\x60']) := congrArg Prod.snd written
  have plain : '\x60' ∉ name.toList := by
    unfold isIdentifier at valid
    generalize name.toList = cs at valid ⊢
    cases cs with
    | nil => exact nofun
    | cons c cs =>
      rw [isIdentifierChars, Bool.and_eq_true, List.all_eq_true] at valid
      intro mem
      rcases List.mem_cons.1 mem with rfl | mem
      · exact absurd valid.1 (by decide)
      · exact absurd (valid.2 _ mem) (by decide)
  have inside : (name.toList ++ ['\x60']).dropLast = name.toList := List.dropLast_concat
  have unquoted : t.unquoted = String.ofList (undouble '\x60' (name.toList ++ ['\x60']).dropLast) := by
    rw [Token.unquoted, kind, source]
    rfl
  rw [unquoted, inside, undouble_of_not_mem plain, String.ofList_toList]

/-- A name in backquotes names something. -/
theorem isName_of_backquoted (written : t.lexeme = backquoted name) : t.isName = true := by
  have kind : t.kind = .bracketedName := congrArg Prod.fst written
  rw [Token.isName, kind]

/-- A token that is written as a symbol is that symbol and no other. -/
theorem isSymbol_of_symbol {c : Char} (written : t.lexeme = (.symbol, [c])) (other : String) :
    t.isSymbol other = (String.ofList [c] == other) :=
  isSymbol_eq (isSymbol_of_lexeme written) other

/-- A word is no symbol. -/
theorem isSymbol_of_word (written : t.lexeme = word text) (symbol : String) :
    t.isSymbol symbol = false := by
  rw [Token.isSymbol, (of_word written).1]
  rfl

end Tokens

section Numbering

variable {k : Nat} {ts : List Token} {l : TokenKind × List Char} {ls : List (TokenKind × List Char)}

/-- The first of numbered tokens, where it is no mark. -/
theorem tokens_of_cons (other : l.1 ≠ .parameter) (written : ts.map lexeme = l :: ls)
    (numbered : Numbered k ts) :
    ∃ t us, ts = t :: us ∧ t.lexeme = l ∧ us.map lexeme = ls ∧ Numbered k us := by
  obtain ⟨t, us, rfl, first, rest⟩ := List.map_eq_cons_iff.1 written
  have kind : t.kind ≠ .parameter := by
    rw [← first] at other
    exact other
  rw [Numbered, if_neg kind] at numbered
  exact ⟨t, us, rfl, first, rest, numbered⟩

/-- The first of numbered tokens, where it is a mark. -/
theorem tokens_of_mark (written : ts.map lexeme = mark :: ls) (numbered : Numbered k ts) :
    ∃ t us, ts = t :: us ∧ t.kind = .parameter ∧ t.slot = k + 1 ∧ us.map lexeme = ls ∧
      Numbered (k + 1) us := by
  obtain ⟨t, us, rfl, first, rest⟩ := List.map_eq_cons_iff.1 written
  have kind := kind_of_mark first
  rw [Numbered, if_pos kind] at numbered
  exact ⟨t, us, rfl, kind, numbered.1, rest, numbered.2⟩

/-- The greatest number of a text's marks is their count. -/
theorem mostSlot_numbered {sql : String} (written : (Token.numbered sql).map lexeme = ls)
    (unnamed : Unnamed ls) : mostSlot (Token.numbered sql) = parameterCount ls := by
  have lexemes : (scan sql).map lexeme = ls := by
    rw [← written, Token.numbered, map_lexeme_numberSlots]
  have most := @most_numberSlots ⟨0, []⟩ (scan sql) (lexemes ▸ unnamed)
    fun t mem => (of_mem_scanFrom mem).1
  rw [lexemes] at most
  simpa [mostSlot, Token.numbered] using most

variable {sql : String}

/-- A text that spells tokens is the statement that these are read as. -/
theorem parse_of_spells (spells : Spells sql.toList (l :: ls)) (unnamed : Unnamed (l :: ls))
    (begins : l.1 = .word) {statement : Statement}
    (reads : readStatement sql.toList (Token.numbered sql) = .ok (statement, [])) :
    parse sql = .ok ⟨some statement, parameterCount (l :: ls), sql, []⟩ := by
  obtain ⟨written, numbered⟩ := spells.numbered unnamed
  have most := mostSlot_numbered written unnamed
  obtain ⟨t, ts, tokens, first, -⟩ := List.map_eq_cons_iff.1 written
  have kind : t.kind = .word := (congrArg Prod.fst first).trans begins
  have noSymbol : t.isSymbol ";" = false := by
    rw [Token.isSymbol, kind]
    rfl
  rw [tokens] at reads most
  rw [parse_whole tokens noSymbol reads, most]

/-- A text that spells tokens and is a statement is read as one. -/
theorem readStatement_of_parse (spells : Spells sql.toList (l :: ls)) (unnamed : Unnamed (l :: ls))
    (begins : l.1 = .word) {parsed : Parsed} (read : parse sql = .ok parsed) :
    ∃ result, readStatement sql.toList (Token.numbered sql) = .ok result := by
  obtain ⟨written, -⟩ := spells.numbered unnamed
  obtain ⟨t, ts, tokens, first, -⟩ := List.map_eq_cons_iff.1 written
  have kind : t.kind = .word := (congrArg Prod.fst first).trans begins
  have noSymbol : t.isSymbol ";" = false := by
    rw [Token.isSymbol, kind]
    rfl
  rw [parse_eq tokens noSymbol] at read
  rw [tokens]
  cases outcome : readStatement sql.toList (t :: ts) with
  | error stop =>
    rw [outcome] at read
    cases read
  | ok result => exact ⟨result, rfl⟩

end Numbering

end Registrar.Sql
