import Registrar.Proofs.Filter.Guard

/-!
# Marks and their values

The marks in the text of a statement stand for its parameters from left to right.  `Marked text
marks` says which marks a text has: each stands right behind its lead, which tells what its value is
compared with or assigned to, and there are no others.  Marks of texts behind each other are those of
both, so the marks of a clause are those of the terms of its condition, in the order of the tree.
-/

namespace Registrar

/-- A mark in a text: the text right before it, and the value that it stands for. -/
structure Mark where
  lead : String
  value : Value

/-- The marks of a text, from left to right, each behind its lead. -/
def Marked : String → List Mark → Prop
  | text, [] => '?' ∉ text.toList
  | text, mark :: marks => ∃ before behind, text = before ++ mark.lead ++ "?" ++ behind ∧
      '?' ∉ (before ++ mark.lead).toList ∧ Marked behind marks

/-- The parameters of a text are the values of its marks. -/
structure Aligned (text : String) (parameters : List Value) (marks : List Mark) : Prop where
  marked : Marked text marks
  values : parameters = marks.map Mark.value

/-- The marks of a value behind a lead: one, or one for each item of a list. -/
def Value.marks (lead : String) : Value → List Mark
  | .list [] => []
  | .list (item :: items) => ⟨lead ++ "(", item⟩ :: items.map fun item => ⟨", ", item⟩
  | value => [⟨lead, value⟩]

/-- The marks of a term. -/
def Term.marks (table : String) : Term → List Mark
  | .id n => [⟨table ++ "_id = ", .integer n⟩]
  | .name s => [⟨table ++ "_val = ", .text s⟩]
  | .comparison column operator value => value.marks (column ++ " " ++ operator ++ " ")
  | .fragment _ => []

/-- The texts of a term that are taken as they are. -/
def Term.owned : Term → List String
  | .id _ | .name _ => []
  | .comparison column operator _ => [column, operator]
  | .fragment text => [text]

/-- The marks of the terms of a condition, in the order of the tree. -/
def Condition.marks (table : String) (condition : Condition) : List Mark :=
  condition.terms.flatMap (Term.marks table)

/-- There are no marks among some texts. -/
def Unmarked (texts : List String) : Prop :=
  ∀ text ∈ texts, '?' ∉ text.toList

instance (texts : List String) : Decidable (Unmarked texts) :=
  inferInstanceAs (Decidable (∀ text ∈ texts, '?' ∉ text.toList))

/-- The texts of a condition that are taken as they are. -/
def Condition.owned (condition : Condition) : List String :=
  condition.terms.flatMap Term.owned

namespace Marked

variable {a b : String} {marks more : List Mark}

/-- Nothing has no marks. -/
theorem nothing : Marked "" [] :=
  show '?' ∉ "".toList by decide

/-- A text without marks may stand before one with marks. -/
theorem behind (silent : '?' ∉ a.toList) (marked : Marked b marks) : Marked (a ++ b) marks := by
  cases marks with
  | nil =>
    have none : '?' ∉ b.toList := marked
    show '?' ∉ (a ++ b).toList
    rw [String.toList_append, List.mem_append]
    exact fun mem => mem.elim silent none
  | cons mark marks =>
    obtain ⟨before, behind, rfl, none, rest⟩ := marked
    refine ⟨a ++ before, behind, by simp only [String.append_assoc], ?_, rest⟩
    rw [String.append_assoc, String.toList_append, List.mem_append]
    exact fun mem => mem.elim silent none

/-- The marks of texts behind each other are those of both. -/
theorem append (first : Marked a marks) (second : Marked b more) :
    Marked (a ++ b) (marks ++ more) := by
  induction marks generalizing a with
  | nil => exact second.behind first
  | cons mark marks ih =>
    obtain ⟨before, behind, rfl, none, rest⟩ := first
    exact ⟨before, behind ++ b, by simp only [String.append_assoc], none, ih rest⟩

/-- A text without marks may stand behind one with marks. -/
theorem before (marked : Marked a marks) (silent : '?' ∉ b.toList) : Marked (a ++ b) marks := by
  have whole := marked.append (show Marked b [] from silent)
  rwa [List.append_nil] at whole

/-- A lead and a mark. -/
theorem single {lead : String} (silent : '?' ∉ lead.toList) (value : Value) :
    Marked (lead ++ "?") [⟨lead, value⟩] :=
  ⟨"", "", by simp, by simpa using silent, nothing⟩

/-- The marks of a text are as many as it has. -/
theorem count (marked : Marked a marks) : a.toList.count '?' = marks.length := by
  induction marks generalizing a with
  | nil => exact List.count_eq_zero.2 marked
  | cons mark marks ih =>
    obtain ⟨before, behind, rfl, none, rest⟩ := marked
    have first : (before ++ mark.lead).toList.count '?' = 0 := List.count_eq_zero.2 none
    have one : "?".toList.count '?' = 1 := by decide
    simp only [String.toList_append, List.count_append, List.length_cons] at first ⊢
    have others := ih rest
    omega

/-- A text with a mark says something. -/
theorem isBlankText {mark : Mark} (marked : Marked a (mark :: marks)) :
    Text.isBlankText a = false := by
  obtain ⟨before, behind, rfl, -⟩ := marked
  refine Keeps.all_isBlank_of_mem (c := '?') ?_ (by decide)
  simp

end Marked

/-- One more mark stands in front, behind it a comma. -/
theorem marks_succ (n : Nat) : Clause.marks (n + 2) = "?" ++ ", " ++ Clause.marks (n + 1) := by
  simp only [Clause.marks, List.replicate_succ, String.intercalate_cons_cons]

/-- Marks with commas between them are those of some values. -/
theorem marked_marks {lead : String} (silent : '?' ∉ lead.toList) (item : Value)
    (items : List Value) :
    Marked (lead ++ Clause.marks (items.length + 1))
      (⟨lead, item⟩ :: items.map fun item => ⟨", ", item⟩) := by
  induction items generalizing lead item with
  | nil =>
    have one : Clause.marks 1 = "?" := by decide
    exact one ▸ Marked.single silent item
  | cons next items ih =>
    have comma : '?' ∉ ", ".toList := by decide
    have rest := ih comma next
    rw [List.length_cons, marks_succ]
    refine ⟨"", ", " ++ Clause.marks (items.length + 1), ?_, by simpa using silent, rest⟩
    rw [String.empty_append, String.append_assoc, String.append_assoc]

/-- The marks of a value stand behind what it is compared with. -/
theorem aligned_placeholder {lead : String} (silent : '?' ∉ lead.toList) (value : Value) :
    Aligned (lead ++ (Clause.placeholder value).text) (Clause.placeholder value).parameters
      (value.marks lead) := by
  cases value with
  | list items =>
    cases items with
    | nil =>
      refine ⟨?_, rfl⟩
      have none : '?' ∉ (Clause.placeholder (.list [])).text.toList := by decide
      exact Marked.behind silent none
    | cons item items =>
      constructor
      · have opened : '?' ∉ (lead ++ "(").toList := by simpa using silent
        have closing : '?' ∉ ")".toList := by decide
        have marked := (marked_marks opened item items).before closing
        simp only [String.append_assoc] at marked
        exact marked
      · simp [Clause.placeholder, Value.marks, Function.comp_def]
  | _ => exact ⟨Marked.single silent _, rfl⟩

namespace Aligned

variable {a b : String} {parameters others : List Value} {marks more : List Mark}

/-- Texts behind each other are aligned if both are. -/
theorem append (first : Aligned a parameters marks) (second : Aligned b others more) :
    Aligned (a ++ b) (parameters ++ others) (marks ++ more) :=
  ⟨first.marked.append second.marked, by rw [first.values, second.values, List.map_append]⟩

/-- A text without marks may stand before an aligned one. -/
theorem behind (silent : '?' ∉ a.toList) (aligned : Aligned b parameters marks) :
    Aligned (a ++ b) parameters marks :=
  ⟨aligned.marked.behind silent, aligned.values⟩

/-- A text without marks may stand behind an aligned one. -/
theorem before (aligned : Aligned a parameters marks) (silent : '?' ∉ b.toList) :
    Aligned (a ++ b) parameters marks :=
  ⟨aligned.marked.before silent, aligned.values⟩

/-- There are as many parameters as marks in the text. -/
theorem count (aligned : Aligned a parameters marks) :
    a.toList.count '?' = parameters.length := by
  rw [aligned.marked.count, aligned.values, List.length_map]

/-- A blank text has no marks and no parameters. -/
theorem of_blank (aligned : Aligned a parameters marks) (blank : Text.isBlankText a = true) :
    marks = [] ∧ parameters = [] := by
  cases marks with
  | nil => exact ⟨rfl, aligned.values⟩
  | cons mark marks =>
    rw [aligned.marked.isBlankText] at blank
    cases blank

end Aligned

/-- The clause of a term is aligned with its marks. -/
theorem aligned_term {table : String} (plain : '?' ∉ table.toList) {term : Term}
    (unmarked : Unmarked term.owned) :
    Aligned (term.clause table).text (term.clause table).parameters (term.marks table) := by
  cases term with
  | id n =>
    have lead : '?' ∉ (table ++ "_id = ").toList := by simpa using plain
    have text : table ++ "_id = ?" = table ++ "_id = " ++ "?" := by
      rw [String.append_assoc]
      rfl
    exact ⟨by rw [Term.clause, text]; exact Marked.single lead _, rfl⟩
  | name s =>
    have lead : '?' ∉ (table ++ "_val = ").toList := by simpa using plain
    have text : table ++ "_val = ?" = table ++ "_val = " ++ "?" := by
      rw [String.append_assoc]
      rfl
    exact ⟨by rw [Term.clause, text]; exact Marked.single lead _, rfl⟩
  | comparison column operator value =>
    have first := unmarked column List.mem_cons_self
    have second := unmarked operator (List.mem_cons_of_mem _ List.mem_cons_self)
    refine aligned_placeholder ?_ value
    simp [first, second]
  | fragment text => exact ⟨unmarked text List.mem_cons_self, rfl⟩

/-- A clause is aligned with the marks of some terms, unless their texts have marks of their own. -/
def AlignedWith (table : String) (terms : List Term) (clause : Clause) : Prop :=
  Unmarked (terms.flatMap Term.owned) →
    Aligned clause.text clause.parameters (terms.flatMap (Term.marks table))

namespace AlignedWith

variable {table : String} {terms others : List Term} {clause rest : Clause}

/-- The empty clause has no marks. -/
theorem empty : AlignedWith table [] Clause.empty :=
  fun _ => ⟨.nothing, rfl⟩

/-- The clause of a term has its marks. -/
theorem term (plain : '?' ∉ table.toList) (term : Term) :
    AlignedWith table [term] (term.clause table) := by
  intro unmarked
  rw [List.flatMap_singleton] at unmarked ⊢
  exact aligned_term plain unmarked

/-- Joined clauses have the marks of both. -/
theorem both (conjunction : Conjunction) (first : AlignedWith table terms clause)
    (second : AlignedWith table others rest) :
    AlignedWith table (terms ++ others) (clause.both conjunction rest) := by
  intro unmarked
  rw [List.flatMap_append] at unmarked ⊢
  have first := first fun text mem => unmarked text (List.mem_append_left _ mem)
  have second := second fun text mem => unmarked text (List.mem_append_right _ mem)
  unfold Clause.both
  by_cases nothing : clause.isEmpty = true
  · rw [if_pos nothing, (first.of_blank nothing).1, List.nil_append]
    exact second
  · rw [if_neg nothing]
    by_cases nothing' : rest.isEmpty = true
    · rw [if_pos nothing', (second.of_blank nothing').1, List.append_nil]
      exact first
    · rw [if_neg nothing']
      have silent : '?' ∉ (" " ++ conjunction.word ++ " ").toList := by
        cases conjunction <;> decide
      have joined := first.append (second.behind silent)
      simpa only [Clause.append, String.append_assoc] using joined

/-- A clause in parentheses has its marks. -/
theorem enclosed {opening : String} (silent : '?' ∉ opening.toList)
    (aligned : AlignedWith table terms clause) :
    AlignedWith table terms (clause.enclosed opening) := by
  intro unmarked
  have inside := aligned unmarked
  unfold Clause.enclosed
  by_cases nothing : clause.isEmpty = true
  · rw [if_pos nothing, (inside.of_blank nothing).1]
    exact ⟨.nothing, rfl⟩
  · rw [if_neg nothing]
    have opens : '?' ∉ (opening ++ "(").toList := by simpa using silent
    have closes : '?' ∉ ")".toList := by decide
    exact (inside.behind opens).before closes

end AlignedWith

open Condition

/-- Clauses of accepted conditions have the marks of their terms. -/
theorem compositional_aligned {table : String} (plain : '?' ∉ table.toList) :
    Compositional table (fun _ condition clause => AlignedWith table condition.terms clause)
      (fun _ entries clause => AlignedWith table (entryTerms entries) clause)
      (fun _ items clause => AlignedWith table (itemTerms items) clause) where
  bare := fun _ value term only => by
    rw [terms, only]
    exact .term plain term
  map := fun _ entries clause aligned => by
    rw [terms]
    exact aligned
  lists := fun _ items clause lists aligned => by
    rw [terms_lists lists]
    exact aligned
  only := fun _ only clause flat aligned => by
    rw [terms_only flat]
    exact aligned
  comparison := fun _ items column operator value flat compares _ => by
    rw [terms_comparison flat compares]
    exact .term plain _
  noEntries := fun _ => .empty
  nested := fun conjunction key inner opening condition clause entries rest nests aligned
      others => by
    have silent : '?' ∉ opening.toList := by
      cases key with
      | group _ =>
        obtain ⟨-, rfl⟩ := Prod.mk.inj (Option.some.inj nests)
        decide
      | not =>
        obtain ⟨-, rfl⟩ := Prod.mk.inj (Option.some.inj nests)
        decide
      | compare _ _ => cases nests
      | column _ => cases nests
    rw [entryTerms_nested nests]
    exact (aligned.enclosed silent).both conjunction others
  compared := fun conjunction key column operator value entries rest compares _ others => by
    rw [entryTerms_compared compares]
    exact (AlignedWith.term plain _).both conjunction others
  noItems := fun _ => .empty
  item := fun conjunction item clause items rest aligned others => by
    rw [itemTerms]
    exact aligned.both conjunction others

/-- The clause of an accepted condition has the marks of its terms. -/
theorem aligned_of_compile {table : String} {conjunction : Conjunction} {condition : Condition}
    {clause : Clause} (plain : '?' ∉ table.toList)
    (accepted : condition.compile table conjunction = .ok clause)
    (unmarked : Unmarked condition.owned) :
    Aligned clause.text clause.parameters (condition.marks table) :=
  (compositional_aligned plain).compile conjunction condition accepted unmarked

end Registrar
