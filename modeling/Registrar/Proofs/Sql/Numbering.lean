import Registrar.Proofs.Sql.Scanning

/-!
# Numbering of marks

The marks of a text stand for its parameters from left to right.  `Numbered k ts` says that the
marks among some tokens have the numbers behind `k`, one after another; `Spells.numbered` says that
the tokens of a text are numbered so.  Numbering goes through the parts of a text, each part going
on where the one before it stopped.
-/

namespace Registrar.Sql

open Token

/-- The marks among some tokens have the numbers behind a number, one after another. -/
def Numbered : Nat → List Token → Prop
  | _, [] => True
  | k, t :: ts =>
    if t.kind = .parameter then t.slot = k + 1 ∧ Numbered (k + 1) ts else Numbered k ts

/-- The number of parameters among what some tokens are. -/
def parameterCount (ls : List (TokenKind × List Char)) : Nat :=
  ls.countP fun l => l.1 == .parameter

/-- The parameters among what some tokens are do not have numbers or names of their own. -/
def Unnamed (ls : List (TokenKind × List Char)) : Prop :=
  ∀ l ∈ ls, l.1 = .parameter → l = mark

/-- A text's tokens, their parameters numbered. -/
def Token.numbered (sql : String) : List Token :=
  numberSlots ⟨0, []⟩ (scan sql)

/-- Parameters of parts are those of the whole. -/
@[simp] theorem parameterCount_append (ls ms : List (TokenKind × List Char)) :
    parameterCount (ls ++ ms) = parameterCount ls + parameterCount ms :=
  List.countP_append

/-- Nothing has no parameters. -/
@[simp] theorem parameterCount_nil : parameterCount [] = 0 :=
  rfl

/-- One more token is one more parameter if it is one. -/
@[simp] theorem parameterCount_cons (l : TokenKind × List Char)
    (ls : List (TokenKind × List Char)) :
    parameterCount (l :: ls) = (if l.1 = .parameter then 1 else 0) + parameterCount ls := by
  rw [parameterCount, List.countP_cons, Nat.add_comm]
  simp [parameterCount]

/-- The parameters of two parts have no names if those of the parts have none. -/
theorem Unnamed.append {ls ms : List (TokenKind × List Char)} (first : Unnamed ls)
    (second : Unnamed ms) : Unnamed (ls ++ ms) := by
  intro l mem
  rcases List.mem_append.1 mem with mem | mem
  · exact first l mem
  · exact second l mem

/-- What is no parameter may stand before what has no named ones. -/
theorem Unnamed.cons {l : TokenKind × List Char} {ls : List (TokenKind × List Char)}
    (other : l.1 ≠ .parameter ∨ l = mark) (rest : Unnamed ls) : Unnamed (l :: ls) := by
  intro m mem parameter
  rcases List.mem_cons.1 mem with rfl | mem
  · exact other.resolve_left (absurd parameter)
  · exact rest m mem parameter

/-- Parentheses have no names. -/
theorem Unnamed.enclosed {ls : List (TokenKind × List Char)} (inside : Unnamed ls) :
    Unnamed ((.symbol, ['(']) :: ls ++ [(.symbol, [')'])]) := by
  have closing : Unnamed [(.symbol, [')'])] := by
    intro l mem parameter
    obtain rfl := List.mem_singleton.1 mem
    cases parameter
  have opening : Unnamed ((.symbol, ['(']) :: ls) := inside.cons (.inl (by decide))
  exact opening.append closing

/-- Numbering goes through two parts. -/
theorem numbered_append {k : Nat} {ts us : List Token} :
    Numbered k (ts ++ us) ↔ Numbered k ts ∧ Numbered (k + parameterCount (ts.map lexeme)) us := by
  induction ts generalizing k with
  | nil => simp [Numbered]
  | cons t ts ih =>
    by_cases parameter : t.kind = .parameter
    · have count : k + 1 + parameterCount (ts.map lexeme) =
          k + (1 + parameterCount (ts.map lexeme)) := by omega
      simp [Numbered, lexeme, parameter, ih, count, and_assoc]
    · simp [Numbered, lexeme, parameter, ih]

/-- The numbers behind a number are in the range of parameters if the last one is. -/
theorem Numbered.range {k : Nat} {ts : List Token} (numbered : Numbered k ts) :
    ∀ t ∈ ts, t.kind = .parameter →
      k < t.slot ∧ t.slot ≤ k + parameterCount (ts.map lexeme) := by
  induction ts generalizing k with
  | nil =>
    intro t mem
    cases mem
  | cons u ts ih =>
    intro t mem parameter
    by_cases first : u.kind = .parameter
    · simp only [Numbered, first, if_true] at numbered
      simp only [List.map_cons, parameterCount_cons, lexeme, first, if_true]
      rcases List.mem_cons.1 mem with rfl | mem
      · omega
      · have behind := ih numbered.2 t mem parameter
        omega
    · simp only [Numbered, first, if_false] at numbered
      simp only [List.map_cons, parameterCount_cons, lexeme, first, if_false, Nat.zero_add]
      rcases List.mem_cons.1 mem with rfl | mem
      · exact absurd parameter first
      · exact ih numbered t mem parameter

/-- Numbers do not change what tokens are. -/
theorem map_lexeme_numberSlots (slots : Slots) (ts : List Token) :
    (numberSlots slots ts).map lexeme = ts.map lexeme := by
  induction ts generalizing slots with
  | nil => rfl
  | cons t ts ih =>
    unfold numberSlots
    split
    · simp only [List.map_cons, ih]
      rfl
    · simp only [List.map_cons, ih]

/-- Marks without names get the numbers behind the greatest one given. -/
theorem numbered_numberSlots {slots : Slots} {ts : List Token} (unnamed : Unnamed (ts.map lexeme)) :
    Numbered slots.most (numberSlots slots ts) := by
  induction ts generalizing slots with
  | nil => trivial
  | cons t ts ih =>
    have rest : Unnamed (ts.map lexeme) := fun l mem => unnamed l (List.mem_cons_of_mem _ mem)
    by_cases parameter : t.kind = .parameter
    · have isMark : t.source = ['?'] := by
        have same := unnamed (lexeme t) List.mem_cons_self parameter
        exact congrArg Prod.snd same
      have next : max slots.most (slots.most + 1) = slots.most + 1 := by omega
      simp only [numberSlots, parameter, if_true, isMark, slotOf, next, Numbered, true_and]
      have behind : Numbered (Slots.mk (slots.most + 1) slots.named).most
          (numberSlots ⟨slots.most + 1, slots.named⟩ ts) := ih rest
      exact behind
    · simp only [numberSlots, parameter, if_false, Numbered]
      exact ih rest

/-- The tokens of a text are what it spells, their marks numbered from left to right. -/
theorem Spells.numbered {sql : String} {ls : List (TokenKind × List Char)}
    (spells : Spells sql.toList ls) (unnamed : Unnamed ls) :
    (Token.numbered sql).map lexeme = ls ∧ Numbered 0 (Token.numbered sql) := by
  obtain ⟨ts, kinds, cut⟩ := spells.scans 0 [] trivial
  have whole : scan sql = ts := by
    rw [List.append_nil, scanAt_nil, List.append_nil] at cut
    exact cut
  subst kinds
  rw [Token.numbered, whole]
  have numbered : Numbered (Slots.mk 0 []).most (numberSlots ⟨0, []⟩ ts) :=
    numbered_numberSlots unnamed
  exact ⟨map_lexeme_numberSlots _ ts, numbered⟩

end Registrar.Sql
