import Registrar.Proofs.Filter.Terms

/-!
# Weaving of clauses

A clause is woven from the terms of its condition: their texts stand in it in the order of the tree,
with nothing between them but parentheses and words of logic, and their parameters are all of its
parameters, in the same order.  A clause is empty only if there are no terms, although emptiness is
decided from the text where groups, negations and lists are put together.
-/

namespace Registrar

open Registrar.Text

/-- The texts that hold the terms of a clause together. -/
def glues : List String :=
  ["(", "NOT (", ")", " AND ", " OR "]

/-- A part of a clause's text. -/
inductive Piece where
  | glue (text : String)
  | term (term : Term)

namespace Piece

/-- The text of a part. -/
def text (table : String) : Piece → String
  | .glue held => held
  | .term said => (said.clause table).text

/-- The term that a part is. -/
def term? : Piece → Option Term
  | .glue _ => none
  | .term said => some said

end Piece

/-- A clause is made up of terms, all of them and in their order, and of glue between them. -/
structure Woven (table : String) (terms : List Term) (clause : Clause) : Prop where
  text : ∃ pieces : List Piece, (∀ text, .glue text ∈ pieces → text ∈ glues) ∧
    pieces.filterMap Piece.term? = terms ∧
    clause.text = String.join (pieces.map (Piece.text table))
  parameters : clause.parameters = terms.flatMap fun term => (term.clause table).parameters

namespace Woven

variable {table : String} {terms others : List Term} {clause rest : Clause}

/-- The empty clause has no terms. -/
theorem empty : Woven table [] Clause.empty :=
  ⟨⟨[], by simp, rfl, rfl⟩, rfl⟩

/-- The clause of a term has that term. -/
theorem term (term : Term) : Woven table [term] (term.clause table) :=
  ⟨⟨[.term term], by simp, rfl, by simp [Piece.text]⟩, by simp⟩

/-- A clause behind another has the terms of both. -/
theorem append (conjunction : Conjunction) (first : Woven table terms clause)
    (second : Woven table others rest) :
    Woven table (terms ++ others) (Clause.append conjunction.word clause rest) := by
  obtain ⟨pieces, glued, kept, text⟩ := first.text
  obtain ⟨pieces', glued', kept', text'⟩ := second.text
  constructor
  · refine ⟨pieces ++ .glue (" " ++ conjunction.word ++ " ") :: pieces', ?_, ?_, ?_⟩
    · intro glue mem
      rcases List.mem_append.1 mem with mem | mem
      · exact glued glue mem
      · rcases List.mem_cons.1 mem with same | mem
        · obtain rfl := Piece.glue.inj same
          cases conjunction <;> decide
        · exact glued' glue mem
    · simp [kept, kept', List.filterMap_cons, Piece.term?]
    · apply String.toList_inj.1
      simp [Clause.append, text, text', Piece.text]
  · simp [Clause.append, first.parameters, second.parameters]

/-- A clause in parentheses has its terms. -/
theorem wrapped {opening : String} (known : opening ++ "(" ∈ glues)
    (woven : Woven table terms clause) : Woven table terms (clause.wrapped opening) := by
  obtain ⟨pieces, glued, kept, text⟩ := woven.text
  constructor
  · refine ⟨.glue (opening ++ "(") :: (pieces ++ [.glue ")"]), ?_, ?_, ?_⟩
    · intro glue mem
      rcases List.mem_cons.1 mem with same | mem
      · obtain rfl := Piece.glue.inj same
        exact known
      · rcases List.mem_append.1 mem with mem | mem
        · exact glued glue mem
        · obtain rfl := Piece.glue.inj (List.mem_singleton.1 mem)
          decide
    · simp [kept, List.filterMap_cons, Piece.term?]
    · apply String.toList_inj.1
      simp [Clause.wrapped, text, Piece.text]
  · exact woven.parameters

end Woven

/-- A clause has certain terms, and says nothing exactly if there are none. -/
structure Keeps (table : String) (terms : List Term) (clause : Clause) : Prop where
  woven : Woven table terms clause
  isEmpty : clause.isEmpty = true ↔ terms = []

namespace Keeps

variable {table : String} {terms others : List Term} {clause rest : Clause}

/-- Without terms the empty clause is what there is. -/
theorem empty : Keeps table [] Clause.empty :=
  ⟨.empty, by simp⟩

/-- Joining clauses drops no term. -/
theorem both (conjunction : Conjunction) (first : Keeps table terms clause)
    (second : Keeps table others rest) :
    Keeps table (terms ++ others) (clause.both conjunction rest) := by
  unfold Clause.both
  by_cases nothing : clause.isEmpty = true
  · rw [if_pos nothing, first.isEmpty.1 nothing, List.nil_append]
    exact second
  · rw [if_neg nothing]
    by_cases nothing' : rest.isEmpty = true
    · rw [if_pos nothing', second.isEmpty.1 nothing', List.append_nil]
      exact first
    · rw [if_neg nothing']
      refine ⟨first.woven.append conjunction second.woven, ?_⟩
      have speaks := Clause.isEmpty_append conjunction.word clause (Bool.not_eq_true _ ▸ nothing')
      have present : terms ≠ [] := mt first.isEmpty.2 nothing
      simp [speaks, present]

/-- Parentheses drop no term. -/
theorem enclosed {opening : String} (known : opening ++ "(" ∈ glues)
    (keeps : Keeps table terms clause) : Keeps table terms (clause.enclosed opening) := by
  unfold Clause.enclosed
  by_cases nothing : clause.isEmpty = true
  · rw [if_pos nothing, keeps.isEmpty.1 nothing]
    exact empty
  · rw [if_neg nothing]
    refine ⟨keeps.woven.wrapped known, ?_⟩
    have speaks := Clause.isEmpty_wrapped opening clause
    have present : terms ≠ [] := mt keeps.isEmpty.2 nothing
    simp [speaks, present]

/-- Characters of which one is not blank are not all blank. -/
theorem all_isBlank_of_mem {cs : List Char} {c : Char} (mem : c ∈ cs)
    (visible : isBlank c = false) :
    cs.all isBlank = false := by
  rw [← Bool.not_eq_true, List.all_eq_true]
  intro all
  rw [all c mem] at visible
  cases visible

/-- A word of two letters is among the characters that hold it. -/
theorem mem_of_holdsWord {first second : Char} {cs : List Char}
    (holds : holdsWord first second cs = true) : first ∈ cs := by
  induction cs using holdsWord.induct with
  | case1 a b c d rest ih =>
    rw [holdsWord, Bool.or_eq_true] at holds
    rcases holds with here | behind
    · simp only [Bool.and_eq_true, beq_iff_eq] at here
      simp [here.1.1.2]
    · exact List.mem_cons_of_mem a (ih behind)
  | case2 cs short =>
    unfold holdsWord at holds
    split at holds
    · next a b c d rest => exact absurd rfl (short a b c d rest)
    · cases holds

/-- Text that compares something is not blank. -/
theorem isBlankText_of_hasComparator {s : String} (compares : hasComparator s = true) :
    isBlankText s = false := by
  simp only [hasComparator, Bool.or_eq_true] at compares
  rcases compares with (sign | word) | word
  · obtain ⟨c, mem, known⟩ := List.any_eq_true.1 sign
    refine all_isBlank_of_mem mem ?_
    simp only [Bool.or_eq_true, beq_iff_eq] at known
    obtain (rfl | rfl) | rfl := known <;> decide
  · exact all_isBlank_of_mem (mem_of_holdsWord word) (by decide)
  · exact all_isBlank_of_mem (mem_of_holdsWord word) (by decide)

/-- A single mark, or marks in parentheses, are visible. -/
theorem isBlankText_placeholder (value : Value) :
    isBlankText (Clause.placeholder value).text = false := by
  cases value with
  | list items =>
    simp only [Clause.placeholder]
    exact Clause.isBlankText_append_of_right _ (by decide)
  | _ => exact (by decide : isBlankText "?" = false)

/-- The clause of a comparison keeps it. -/
theorem comparison (column operator : String) (value : Value) :
    Keeps table [.comparison column operator value]
      ((Term.comparison column operator value).clause table) := by
  have speaks := Clause.isBlankText_append_of_right (column ++ " " ++ operator ++ " ")
    (isBlankText_placeholder value)
  refine ⟨.term _, ?_⟩
  simp [Clause.isEmpty, Term.clause, speaks]

/-- The clause of a bare value keeps its term. -/
theorem bare {value : Value} {term : Term} (only : Condition.bareTerms value = [term]) :
    Keeps table [term] (term.clause table) := by
  have speaks : (term.clause table).isEmpty = false := by
    rcases Condition.bareTerms_cases only with ⟨n, rfl⟩ | ⟨s, rfl⟩ | ⟨s, rfl, compares⟩
    · exact Clause.isBlankText_append_of_right table (by decide)
    · exact Clause.isBlankText_append_of_right table (by decide)
    · exact isBlankText_of_hasComparator compares
  exact ⟨.term term, by simp [speaks]⟩

end Keeps

open Condition

/-- Accepted conditions keep their terms. -/
theorem compositional_keeps (table : String) :
    Compositional table (fun _ condition clause => Keeps table condition.terms clause)
      (fun _ entries clause => Keeps table (entryTerms entries) clause)
      (fun _ items clause => Keeps table (itemTerms items) clause) where
  bare := fun _ value term only => by
    rw [terms, only]
    exact .bare only
  map := fun _ entries clause keeps => by
    rw [terms]
    exact keeps
  lists := fun _ items clause lists keeps => by
    rw [terms_lists lists]
    exact keeps
  only := fun _ only clause flat keeps => by
    rw [terms_only flat]
    exact keeps
  comparison := fun _ items column operator value flat compares _ => by
    rw [terms_comparison flat compares]
    exact .comparison column operator value.coerced
  noEntries := fun _ => .empty
  nested := fun conjunction key inner opening condition clause entries rest nests keeps others => by
    have known : opening ++ "(" ∈ glues := by
      cases key with
      | group _ =>
        obtain ⟨-, rfl⟩ := Prod.mk.inj (Option.some.inj nests)
        decide
      | not =>
        obtain ⟨-, rfl⟩ := Prod.mk.inj (Option.some.inj nests)
        decide
      | compare _ _ => cases nests
      | column _ => cases nests
    rw [entryTerms_nested nests]
    exact (keeps.enclosed known).both conjunction others
  compared := fun conjunction key column operator value entries rest compares _ others => by
    rw [entryTerms_compared compares]
    exact (Keeps.comparison column operator value.coerced).both conjunction others
  noItems := fun _ => .empty
  item := fun conjunction item clause items rest keeps others => by
    rw [itemTerms]
    exact keeps.both conjunction others

/-- Accepted conditions are leafless exactly if they have no terms. -/
theorem compositional_leafless (table : String) :
    Compositional table (fun _ condition _ => condition.leafless = condition.terms.isEmpty)
      (fun _ entries _ => leaflessEntries entries = (entryTerms entries).isEmpty)
      (fun _ items _ => leaflessItems items = (itemTerms items).isEmpty) where
  bare := fun _ value term only => by
    rw [leafless, terms, only]
    rfl
  map := fun _ entries clause same => by
    rw [leafless, terms]
    exact same
  lists := fun _ items clause lists same => by
    rw [leafless_lists lists, terms_lists lists]
    exact same
  only := fun _ only clause flat same => by
    rw [leafless_only flat, terms_only flat]
    exact same
  comparison := fun _ items column operator value flat compares _ => by
    rw [leafless_comparison flat compares, terms_comparison flat compares]
    rfl
  noEntries := fun _ => rfl
  nested := fun conjunction key inner opening condition clause entries rest nests same others => by
    rw [leaflessEntries, entryTerms_nested nests, nests, same, others]
    cases condition.terms <;> rfl
  compared := fun conjunction key column operator value entries rest compares _ others => by
    rw [leaflessEntries, entryTerms_compared compares, nesting?_of_comparison? compares]
    rfl
  noItems := fun _ => rfl
  item := fun conjunction item clause items rest same others => by
    rw [leaflessItems, itemTerms, same, others]
    cases item.terms <;> rfl

/-- The clause of an accepted condition keeps its terms. -/
theorem keeps_of_compile {table : String} {conjunction : Conjunction} {condition : Condition}
    {clause : Clause} (accepted : condition.compile table conjunction = .ok clause) :
    Keeps table condition.terms clause :=
  (compositional_keeps table).compile conjunction condition accepted

/-- An accepted condition is leafless exactly if it has no terms. -/
theorem leafless_iff_terms {table : String} {conjunction : Conjunction} {condition : Condition}
    {clause : Clause} (accepted : condition.compile table conjunction = .ok clause) :
    condition.leafless = true ↔ condition.terms = [] := by
  rw [(compositional_leafless table).compile conjunction condition accepted, List.isEmpty_iff]

end Registrar
