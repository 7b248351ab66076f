import Registrar.Proofs.Sql.Remaining
import Registrar.Proofs.Sql.Sealing

/-!
# Counting parameters

A statement needs as many parameters as there are marks in its text, provided that the text is
sealed: its marks get the numbers from one on, and since the text ends no statement, all of it is
the statement that is read.
-/

namespace Registrar.Sql

open Token

/-- Cut tokens have no numbers, and are parts of the text. -/
theorem of_mem_scanFrom {fuel start : Nat} {cs : List Char} {t : Token}
    (mem : t ∈ scanFrom fuel start cs) : t.slot = 0 ∧ t.source.Sublist cs := by
  induction fuel generalizing start cs with
  | zero => cases mem
  | succ fuel ih =>
    cases cs with
    | nil => cases mem
    | cons c cs =>
      have later {n next : Nat} (mem : t ∈ scanFrom fuel next ((c :: cs).drop n)) :
          t.slot = 0 ∧ t.source.Sublist (c :: cs) :=
        ⟨(ih mem).1, (ih mem).2.trans (List.drop_sublist n (c :: cs))⟩
      unfold scanFrom at mem
      dsimp only at mem
      split at mem
      · cases mem
      · split at mem
        · exact later mem
        · rcases List.mem_cons.1 mem with rfl | mem
          · exact ⟨rfl, List.take_sublist _ _⟩
          · exact later mem

/-- A text without a semicolon ends no statement. -/
theorem unended_of_not_mem {cs : List Char} (absent : ';' ∉ cs) :
    (.symbol, [';']) ∉ lexemes cs := by
  intro mem
  obtain ⟨t, among, same⟩ := List.mem_map.1 mem
  have source : t.source = [';'] := congrArg Prod.snd same
  have part := (of_mem_scanFrom among).2
  rw [source] at part
  exact absent (part.subset List.mem_cons_self)

/-- The greatest number of marks is their count, behind the numbers given before. -/
theorem most_numberSlots {slots : Slots} {ts : List Token} (unnamed : Unnamed (ts.map lexeme))
    (fresh : ∀ t ∈ ts, t.slot = 0) :
    (numberSlots slots ts).foldl (fun n (t : Token) => max n t.slot) slots.most =
      slots.most + parameterCount (ts.map lexeme) := by
  induction ts generalizing slots with
  | nil => rfl
  | cons t ts ih =>
    have rest : Unnamed (ts.map lexeme) := fun l mem => unnamed l (List.mem_cons_of_mem _ mem)
    have others : ∀ u ∈ ts, u.slot = 0 := fun u mem => fresh u (List.mem_cons_of_mem t mem)
    by_cases parameter : t.kind = .parameter
    · have isMark : t.source = ['?'] := by
        have same := unnamed (lexeme t) List.mem_cons_self parameter
        exact congrArg Prod.snd same
      have next : max slots.most (slots.most + 1) = slots.most + 1 := by omega
      have behind : (numberSlots ⟨slots.most + 1, slots.named⟩ ts).foldl
          (fun n (t : Token) => max n t.slot) (slots.most + 1) =
            slots.most + 1 + parameterCount (ts.map lexeme) :=
        @ih ⟨slots.most + 1, slots.named⟩ rest others
      simp only [numberSlots, parameter, if_true, isMark, slotOf, next, List.foldl_cons, behind,
        List.map_cons, parameterCount_cons, lexeme, Nat.add_assoc]
    · have none := fresh t List.mem_cons_self
      simp only [numberSlots, parameter, if_false, List.foldl_cons, none, Nat.max_zero,
        ih rest others, List.map_cons, parameterCount_cons, lexeme, Nat.zero_add]

/-- The words that questions, changes and removals of rows begin with. -/
def conditionWords : List String :=
  ["SELECT", "UPDATE", "DELETE"]

/-- A question, a change or a removal leaves the last tokens of its text. -/
theorem leaves_readStatement {t : Token} (kind : t.kind = .word) (word : t.text ∈ conditionWords)
    (sql : List Char) (ts : List Token) : Leaves ts (readStatement sql (t :: ts)) := by
  simp only [conditionWords, List.mem_cons, List.not_mem_nil, or_false] at word
  have question : Text.upperAscii "SELECT" = "SELECT" := by decide
  have revision : Text.upperAscii "UPDATE" = "UPDATE" := by decide
  have removal : Text.upperAscii "DELETE" = "DELETE" := by decide
  rcases word with word | word | word
  · simp only [readStatement, kind, word, question]
    exact leaves_bind (leaves_readSelect sql ts) (List.suffix_refl ts) fun _ _ left => .ok left
  · simp only [readStatement, kind, word, revision]
    exact leaves_readUpdate sql ts
  · simp only [readStatement, kind, word, removal]
    exact leaves_readDelete sql ts

/-- A question, a change or a removal whose text ends no statement is all of its text, where that is
read. -/
theorem whole_of_parse {text word : String} {rest : List Char}
    (unended : (.symbol, [';']) ∉ lexemes text.toList) (known : word ∈ conditionWords)
    (begins : text.toList = word.toList ++ ' ' :: rest) {parsed : Parsed}
    (read : parse text = .ok parsed) :
    ∃ statement, parsed = ⟨some statement,
      (numberSlots ⟨0, []⟩ (scan text)).foldl (fun n (t : Token) => max n t.slot) 0, text, []⟩ := by
  have valid : isIdentifierChars word.toList = true :=
    (show ∀ word ∈ conditionWords, isIdentifierChars word.toList = true by decide) word known
  obtain ⟨t, ts, scanned, kind, source⟩ := scan_of_word valid begins
  have noSymbol : t.isSymbol ";" = false := by simp [Token.isSymbol, kind]
  have noParameter : t.kind ≠ .parameter := by
    rw [kind]
    decide
  have isWord : t.text ∈ conditionWords := by rwa [Token.text, source, String.ofList_toList]
  have kept : (scan text).dropWhile (fun t => t.isSymbol ";") = t :: ts := by
    rw [scanned, List.dropWhile_cons, noSymbol]
    simp
  have tokens : numberSlots ⟨0, []⟩ (t :: ts) = t :: numberSlots ⟨0, []⟩ ts := by
    simp only [numberSlots, noParameter, if_false]
  have lexemes : lexemes text.toList = (t :: ts).map lexeme := congrArg (List.map lexeme) scanned
  have none : ∀ u ∈ t :: numberSlots ⟨0, []⟩ ts, u.isSymbol ";" = false := by
    intro u mem
    rw [← Bool.not_eq_true]
    intro ends
    rw [Token.isSymbol, Bool.and_eq_true, beq_iff_eq, beq_iff_eq] at ends
    have source : u.source = [';'] := by
      have written := congrArg String.toList ends.2
      rwa [Token.text, String.toList_ofList] at written
    have among := List.mem_map_of_mem mem (f := lexeme)
    rw [← tokens, map_lexeme_numberSlots, ← lexemes, lexeme, ends.1, source] at among
    exact unended among
  unfold parse at read
  simp only [kept, tokens] at read
  split at read
  · cases read
  · next statement left readAs =>
    have suffix : left <:+ numberSlots ⟨0, []⟩ ts := leaves_readStatement kind isWord _ _ _ readAs
    cases left with
    | nil =>
      rw [List.length_nil, Nat.sub_zero, List.take_length] at read
      rw [scanned, tokens]
      exact ⟨statement, (Except.ok.inj read).symm⟩
    | cons u left =>
      have among : u ∈ t :: numberSlots ⟨0, []⟩ ts :=
        List.mem_cons_of_mem t (suffix.mem List.mem_cons_self)
      simp only [none u among, Bool.false_eq_true, if_false] at read
      cases read

/-- A question, a change or a removal needs as many parameters as its sealed text has marks. -/
theorem parameters_of_parse {text word : String} {rest : List Char} {n : Nat}
    (whole : Sealed n text.toList) (known : word ∈ conditionWords)
    (begins : text.toList = word.toList ++ ' ' :: rest) {parsed : Parsed}
    (read : parse text = .ok parsed) : parsed.statement.isSome ∧ parsed.parameters = n := by
  obtain ⟨statement, rfl⟩ := whole_of_parse whole.unended known begins read
  have lexemes : (scan text).map lexeme = lexemes text.toList := rfl
  have unnamed : Unnamed ((scan text).map lexeme) := lexemes ▸ whole.unnamed
  have most := @most_numberSlots ⟨0, []⟩ _ unnamed fun t mem => (of_mem_scanFrom mem).1
  rw [lexemes, whole.count, Nat.zero_add] at most
  exact ⟨rfl, most⟩

end Registrar.Sql
