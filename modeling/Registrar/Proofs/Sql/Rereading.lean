import Registrar.Proofs.Outcome
import Registrar.Proofs.Sql.Remaining
import Registrar.Proofs.Sql.Renumbering

/-!
# Reading in other surroundings

What has been read from the first of some tokens can be read again where these tokens stand before
others, with other numbers for their parameters and in other places.  Reading looks at most one
token beyond what it takes, so it must be enough that the token behind is of the same kind, or that
both readings are at an end: of the text, of a group, or before a word that joins conditions.
`Rereads` says that a reading can be repeated so, and with how much fuel; the rules for it follow
the steps of a reading one by one.
-/

namespace Registrar.Sql

open Token

variable {P : Renumbering}

/-- A token is another one, in another place and with another number. -/
structure Token.Matches (P : Renumbering) (t u : Token) : Prop where
  lexeme : u.lexeme = t.lexeme
  slot : t.kind = .parameter → P t.slot u.slot ∧ 1 ≤ u.slot ∧ u.slot ≤ 32766

/-- Whether nothing can follow but the end of a group or of the text, or another condition. -/
def Ends : List Token → Prop
  | [] => True
  | t :: _ => t.isWord "AND" = true ∨ t.isWord "OR" = true ∨ t.isSymbol ")" = true

/-- Whether a reading at a level that stops before some tokens stops before others. -/
inductive Meets (level : Nat) : List Token → List Token → Prop where
  | same {t u : Token} {ts us : List Token} : u.lexeme = t.lexeme → Meets level (t :: ts) (u :: us)
  | ends {ts us : List Token} : 3 ≤ level → Ends ts → Ends us → Meets level ts us

section Lexeme

variable {t u : Token}

/-- Tokens that are written the same are of the same kind. -/
theorem kind_congr (same : u.lexeme = t.lexeme) : u.kind = t.kind :=
  congrArg Prod.fst same

/-- Tokens that are written the same have the same source. -/
theorem source_congr (same : u.lexeme = t.lexeme) : u.source = t.source :=
  congrArg Prod.snd same

/-- Tokens that are written the same have the same text. -/
theorem text_congr (same : u.lexeme = t.lexeme) : u.text = t.text := by
  rw [Token.text, Token.text, source_congr same]

/-- Tokens that are written the same are the same keywords. -/
theorem isWord_congr (same : u.lexeme = t.lexeme) (word : String) :
    u.isWord word = t.isWord word := by
  simp only [Token.isWord, kind_congr same, text_congr same]

/-- Tokens that are written the same are the same symbols. -/
theorem isSymbol_congr (same : u.lexeme = t.lexeme) (symbol : String) :
    u.isSymbol symbol = t.isSymbol symbol := by
  simp only [Token.isSymbol, kind_congr same, text_congr same]

/-- Tokens that are written the same are the same operators. -/
theorem follow?_congr (same : u.lexeme = t.lexeme) : u.follow? = t.follow? := by
  simp only [Token.follow?, kind_congr same, text_congr same]

/-- Tokens that are written the same are the same names. -/
theorem isName_congr (same : u.lexeme = t.lexeme) : u.isName = t.isName := by
  simp only [Token.isName, kind_congr same, text_congr same]

/-- Tokens that are written the same are the same names of types. -/
theorem isLooseName_congr (same : u.lexeme = t.lexeme) : u.isLooseName = t.isLooseName := by
  simp only [Token.isLooseName, kind_congr same, text_congr same]

/-- Tokens that are written the same stand for the same name or text. -/
theorem unquoted_congr (same : u.lexeme = t.lexeme) : u.unquoted = t.unquoted := by
  simp only [Token.unquoted, kind_congr same, source_congr same]

end Lexeme

/-- Matching tokens before tokens that may stand for each other may stand for each other. -/
theorem Meets.append {level : Nat} {rest behind used used' : List Token}
    (meets : Meets level rest behind) (matching : List.Forall₂ (Matches P) used used') :
    Meets level (used ++ rest) (used' ++ behind) := by
  cases matching with
  | nil => exact meets
  | cons first _ => exact .same first.lexeme

/-- What stops a reading of operators stops every other one that stops at conditions. -/
theorem Meets.mono {level other : Nat} {rest behind : List Token} (meets : Meets level rest behind)
    (le : level ≤ other ∨ 3 ≤ other) : Meets other rest behind := by
  cases meets with
  | same same => exact .same same
  | ends enough first second => exact .ends (by omega) first second

/-- No keyword but those that join conditions stands at an end. -/
theorem Ends.isWord {t : Token} {ts : List Token} (ends : Ends (t :: ts)) {word : String}
    (other : word ∉ ["AND", "OR"]) : t.isWord word = false := by
  rw [← Bool.not_eq_true]
  intro isWord
  simp only [Token.isWord, Bool.and_eq_true, beq_iff_eq] at isWord
  obtain ⟨kind, rfl⟩ := isWord
  simp only [Ends, Token.isWord, Token.isSymbol, kind] at ends
  simp at ends other
  rcases ends with same | same
  · exact other.1 same
  · exact other.2 same

/-- No symbol but a closing parenthesis stands at an end. -/
theorem Ends.isSymbol {t : Token} {ts : List Token} (ends : Ends (t :: ts)) {symbol : String}
    (other : symbol ≠ ")") : t.isSymbol symbol = false := by
  rw [← Bool.not_eq_true]
  intro isSymbol
  simp only [Token.isSymbol, Bool.and_eq_true, beq_iff_eq] at isSymbol
  obtain ⟨kind, rfl⟩ := isSymbol
  simp only [Ends, Token.isWord, Token.isSymbol, kind] at ends
  simp at ends
  exact other ends

/-- Operators that bind more strongly than conjunction stop at an end. -/
theorem Ends.stops {ts : List Token} (ends : Ends ts) {level : Nat} (enough : 3 ≤ level) :
    Stops level ts := by
  cases ts with
  | nil => trivial
  | cons t ts =>
    rcases ends with isAnd | isOr | closes
    · exact stops_word isAnd (by decide) rfl (by simp only [Follow.strength]; omega) ts
    · exact stops_word isOr (by decide) rfl (by simp only [Follow.strength]; omega) ts
    · exact stops_symbol closes rfl level ts

/-- A keyword that is missing is no other token that is written the same. -/
theorem skipWord?_of_head {t u : Token} (same : u.lexeme = t.lexeme) {word : String}
    {ts : List Token} (missing : skipWord? word (t :: ts) = none) (us : List Token) :
    skipWord? word (u :: us) = none := by
  simp only [skipWord?, isWord_congr same] at missing ⊢
  split at missing
  · cases missing
  · next none => rw [if_neg none]

/-- A symbol that is missing is no other token that is written the same. -/
theorem skipSymbol?_of_head {t u : Token} (same : u.lexeme = t.lexeme) {symbol : String}
    {ts : List Token} (missing : skipSymbol? symbol (t :: ts) = none) (us : List Token) :
    skipSymbol? symbol (u :: us) = none := by
  simp only [skipSymbol?, isSymbol_congr same] at missing ⊢
  split at missing
  · cases missing
  · next none => rw [if_neg none]

/-- A keyword that is there is another token that is written the same. -/
theorem skipWord?_of_isWord {t u : Token} (same : u.lexeme = t.lexeme) {word : String}
    (isWord : t.isWord word = true) (us : List Token) : skipWord? word (u :: us) = some us := by
  rw [skipWord?, isWord_congr same, if_pos isWord]

/-- A symbol that is there is another token that is written the same. -/
theorem skipSymbol?_of_isSymbol {t u : Token} (same : u.lexeme = t.lexeme) {symbol : String}
    (isSymbol : t.isSymbol symbol = true) (us : List Token) :
    skipSymbol? symbol (u :: us) = some us := by
  rw [skipSymbol?, isSymbol_congr same, if_pos isSymbol]

/-- A keyword that is missing is missing in other surroundings. -/
theorem Meets.skipWord? {level : Nat} {rest behind : List Token} (meets : Meets level rest behind)
    {word : String} (other : word ∉ ["AND", "OR"]) (missing : skipWord? word rest = none) :
    Sql.skipWord? word behind = none := by
  cases meets with
  | same same => exact skipWord?_of_head same missing _
  | ends _ _ ends =>
    cases behind with
    | nil => rfl
    | cons t behind => simp [Sql.skipWord?, ends.isWord other]

/-- A symbol that is missing is missing in other surroundings. -/
theorem Meets.skipSymbol? {level : Nat} {rest behind : List Token} (meets : Meets level rest behind)
    {symbol : String} (other : symbol ≠ ")") (missing : skipSymbol? symbol rest = none) :
    Sql.skipSymbol? symbol behind = none := by
  cases meets with
  | same same => exact skipSymbol?_of_head same missing _
  | ends _ _ ends =>
    cases behind with
    | nil => rfl
    | cons t behind => simp [Sql.skipSymbol?, ends.isSymbol other]

/-- What is related to two lists behind each other are two such lists. -/
theorem forall₂_append {α β : Type} {R : α → β → Prop} {as bs : List α} {cs : List β}
    (related : List.Forall₂ R (as ++ bs) cs) :
    ∃ ds es, cs = ds ++ es ∧ List.Forall₂ R as ds ∧ List.Forall₂ R bs es := by
  have first := List.forall₂_take as.length related
  have second := List.forall₂_drop as.length related
  rw [List.take_left] at first
  rw [List.drop_left] at second
  exact ⟨_, _, (List.take_append_drop as.length cs).symm, first, second⟩

/-- Tokens that match those which were read to a result are read to the like of it, whatever stands
behind them that may stand there, with enough fuel. -/
def Rereads (P : Renumbering) (level need : Nat) {α β : Type} (R : α → β → Prop) (a : α)
    (used rest : List Token) (again : Nat → List Token → Except Stop (β × List Token)) : Prop :=
  ∀ used', List.Forall₂ (Matches P) used used' → ∃ b, R a b ∧ ∀ behind fuel,
    Meets level rest behind → need ≤ fuel → again fuel (used' ++ behind) = .ok (b, behind)

namespace Rereads

variable {level need : Nat} {α β γ δ : Type} {R : α → β → Prop} {S : γ → δ → Prop} {a : α} {c : γ}
  {t : Token} {used more rest : List Token}
  {again other : Nat → List Token → Except Stop (β × List Token)}

/-- More fuel does no harm, and neither do fewer ends. -/
theorem mono (rereads : Rereads P level need R a used rest again) {lower enough : Nat}
    (le : need ≤ enough) (among : lower ≤ level ∨ 3 ≤ level) :
    Rereads P lower enough R a used rest again := by
  intro used' matching
  obtain ⟨b, related, go⟩ := rereads used' matching
  exact ⟨b, related, fun behind fuel meets fueled =>
    go behind fuel (meets.mono among) (Nat.le_trans le fueled)⟩

/-- Nothing more is read where a result is ready. -/
theorem done {b : β} (related : R a b) (need : Nat) :
    Rereads P level need R a [] rest fun _ us => .ok (b, us) := by
  intro used' matching
  cases matching
  exact ⟨b, related, fun _ _ _ _ => rfl⟩

/-- A reading may first look at what is there. -/
theorem look (rereads : Rereads P level need R a used rest other)
    (same : ∀ fuel us, Meets level (used ++ rest) us → again fuel us = other fuel us) :
    Rereads P level need R a used rest again := by
  intro used' matching
  obtain ⟨b, related, go⟩ := rereads used' matching
  refine ⟨b, related, ?_⟩
  intro behind fuel meets fueled
  rw [same fuel _ (meets.append matching), go behind fuel meets fueled]

/-- A reading may first look at a token that it then reads. -/
theorem lookHead (rereads : Rereads P level need R a (t :: used) rest other)
    (same : ∀ u, Matches P t u → ∀ fuel us, again fuel (u :: us) = other fuel (u :: us)) :
    Rereads P level need R a (t :: used) rest again := by
  intro used' matching
  obtain ⟨b, related, go⟩ := rereads used' matching
  refine ⟨b, related, ?_⟩
  intro behind fuel meets fueled
  cases matching with
  | cons first _ => rw [List.cons_append, same _ first, ← List.cons_append,
      go behind fuel meets fueled]

/-- A reading goes on behind a token. -/
theorem token {next : Token → Nat → List Token → Except Stop (β × List Token)}
    (rereads : ∀ u, Matches P t u → Rereads P level need R a used rest (next u))
    (same : ∀ u, Matches P t u → ∀ fuel us, again fuel (u :: us) = next u fuel us) :
    Rereads P level need R a (t :: used) rest again := by
  intro used' matching
  cases matching with
  | @cons _ u _ us first others =>
    obtain ⟨b, related, go⟩ := rereads u first us others
    refine ⟨b, related, ?_⟩
    intro behind fuel meets fueled
    rw [List.cons_append, same u first, go behind fuel meets fueled]

/-- A reading goes one level deeper behind a token. -/
theorem step {next : Token → Nat → List Token → Except Stop (β × List Token)}
    (rereads : ∀ u, Matches P t u → Rereads P level need R a used rest (next u))
    (same : ∀ u, Matches P t u → ∀ fuel us, again (fuel + 1) (u :: us) = next u fuel us) :
    Rereads P level (need + 1) R a (t :: used) rest again := by
  intro used' matching
  cases matching with
  | @cons _ u _ us first others =>
    obtain ⟨b, related, go⟩ := rereads u first us others
    refine ⟨b, related, ?_⟩
    intro behind fuel meets fueled
    obtain ⟨fuel, rfl⟩ := Nat.exists_eq_add_of_le' (Nat.le_trans (Nat.le_add_left 1 need) fueled)
    rw [List.cons_append, same u first, go behind fuel meets (by omega)]

/-- A reading goes one level deeper before a token. -/
theorem stepHead (rereads : Rereads P level need R a (t :: used) rest other)
    (same : ∀ u, Matches P t u → ∀ fuel us, again (fuel + 1) (u :: us) = other fuel (u :: us)) :
    Rereads P level (need + 1) R a (t :: used) rest again := by
  intro used' matching
  cases matching with
  | @cons _ u _ us first others =>
    obtain ⟨b, related, go⟩ := rereads (u :: us) (.cons first others)
    refine ⟨b, related, ?_⟩
    intro behind fuel meets fueled
    obtain ⟨fuel, rfl⟩ := Nat.exists_eq_add_of_le' (Nat.le_trans (Nat.le_add_left 1 need) fueled)
    rw [List.cons_append, same u first, ← List.cons_append, go behind fuel meets (by omega)]

/-- A reading goes one level deeper, and may look at what is there. -/
theorem succ (rereads : Rereads P level need R a used rest other)
    (same : ∀ fuel us, Meets level (used ++ rest) us → again (fuel + 1) us = other fuel us) :
    Rereads P level (need + 1) R a used rest again := by
  intro used' matching
  obtain ⟨b, related, go⟩ := rereads used' matching
  refine ⟨b, related, ?_⟩
  intro behind fuel meets fueled
  obtain ⟨fuel, rfl⟩ := Nat.exists_eq_add_of_le' (Nat.le_trans (Nat.le_add_left 1 need) fueled)
  rw [same fuel _ (meets.append matching), go behind fuel meets (by omega)]

/-- A result may be put into a greater one. -/
theorem map (rereads : Rereads P level need R a used rest again) {make : β → δ}
    (related : ∀ b, R a b → S c (make b)) :
    Rereads P level need S c used rest fun fuel us =>
      again fuel us >>= fun b => .ok (make b.1, b.2) := by
  intro used' matching
  obtain ⟨b, like, go⟩ := rereads used' matching
  refine ⟨make b, related b like, ?_⟩
  intro behind fuel meets fueled
  simp only [go behind fuel meets fueled]
  rfl

/-- A reading goes on with what the one before it has read. -/
theorem bind {first need' : Nat} {g : β → Nat → List Token → Except Stop (δ × List Token)}
    {middle : List Token} (rereads : Rereads P first need R a used middle again)
    (goes : ∀ b, R a b → Rereads P level need' S c more rest (g b))
    (fits : more ≠ [] ∨ level ≤ first ∨ 3 ≤ first) (parts : middle = more ++ rest) :
    Rereads P level (max need need') S c (used ++ more) rest fun fuel us =>
      again fuel us >>= fun b => g b.1 fuel b.2 := by
  subst parts
  intro used' matching
  obtain ⟨us, vs, rfl, matchingFirst, matchingSecond⟩ := forall₂_append matching
  obtain ⟨b, related, go⟩ := rereads us matchingFirst
  obtain ⟨d, relatedNext, goNext⟩ := goes b related vs matchingSecond
  refine ⟨d, relatedNext, ?_⟩
  intro behind fuel meets fueled
  have meetsFirst : Meets first (more ++ rest) (vs ++ behind) := by
    cases matchingSecond with
    | nil => exact meets.mono (fits.resolve_left (absurd rfl))
    | cons head _ => exact .same head.lexeme
  have inside := go _ fuel meetsFirst (show need ≤ fuel by omega)
  have behind' := goNext behind fuel meets (show need' ≤ fuel by omega)
  simp only [List.append_assoc, inside]
  exact behind'

end Rereads

end Registrar.Sql
