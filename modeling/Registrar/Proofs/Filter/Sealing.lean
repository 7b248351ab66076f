import Registrar.Proofs.Filter.Marks
import Registrar.Proofs.Sql.Sealing

/-!
# Clauses that fit into a statement

What a clause needs so that the store finds its parameters as they are given.  Its text is sealed if
the texts that the caller gave are, so that there are as many parameters as marks; and none of its
parameters is a list, unless the caller put a list into a list: the items of a list that a term
compares with are parameters of their own.
-/

namespace Registrar

open Registrar.Sql (Sealed Silent)

/-- Whether a value is no list with a list among its items. -/
def Value.isFlat : Value → Bool
  | .list items => items.all fun item => !item.isList
  | _ => true

namespace Condition

mutual

/-- The values that a condition is built of. -/
def scalars : Condition → List Value
  | .scalar value => [value]
  | .map entries => entryScalars entries
  | .list items => itemScalars items

/-- The values that the entries of a mapping are built of. -/
def entryScalars : List (Key × Condition) → List Value
  | [] => []
  | (_, condition) :: entries => scalars condition ++ entryScalars entries

/-- The values that the items of a list are built of. -/
def itemScalars : List Condition → List Value
  | [] => []
  | item :: items => scalars item ++ itemScalars items

end

end Condition

/-- None of some values has a list in a list. -/
def Flat (values : List Value) : Prop :=
  ∀ value ∈ values, value.isFlat = true

instance (values : List Value) : Decidable (Flat values) :=
  inferInstanceAs (Decidable (∀ value ∈ values, value.isFlat = true))

/-- None of some values is a list. -/
def Unlisted (values : List Value) : Prop :=
  ∀ value ∈ values, value.isList = false

instance (values : List Value) : Decidable (Unlisted values) :=
  inferInstanceAs (Decidable (∀ value ∈ values, value.isList = false))

/-- The text of a number is no list. -/
theorem isList_single (s : String) : (Coercer.single s).isList = false := by
  rcases Coercer.single_cases s with ⟨n, same⟩ | ⟨x, same⟩ | same <;> rw [same] <;> rfl

/-- Coercion puts no list into a list. -/
theorem Value.isFlat_coerced {value : Value} (flat : value.isFlat = true) :
    value.coerced.isFlat = true := by
  have ofSingle : ∀ v : Value, v.isList = false → v.isFlat = true := by
    intro v single
    cases v with
    | list items => cases single
    | _ => rfl
  cases value with
  | text s =>
    simp only [Value.coerced, Coercer.coerce, Coercer.coerceText]
    split
    · rw [Value.isFlat, List.all_map, List.all_eq_true]
      intro piece _
      simpa using isList_single (String.ofList (Text.trimChars piece))
    · exact ofSingle _ (isList_single s)
  | _ => exact flat

/-- The parameters of a value that is flat are no lists. -/
theorem unlisted_placeholder {value : Value} (flat : value.isFlat = true) :
    Unlisted (Clause.placeholder value).parameters := by
  have single : ∀ v : Value, v.isList = false → Unlisted [v] := by
    intro v plain w mem
    rwa [List.mem_singleton.1 mem]
  cases value with
  | list items =>
    rw [Value.isFlat, List.all_eq_true] at flat
    intro item mem
    simpa using flat item mem
  | _ => exact single _ rfl

/-- A clause has no lists among its parameters if the values of its condition are flat. -/
def UnlistedWith (values : List Value) (clause : Clause) : Prop :=
  Flat values → Unlisted clause.parameters

namespace UnlistedWith

variable {values others : List Value} {clause rest : Clause}

/-- A comparison with a value has no lists among its parameters. -/
theorem comparison (table column operator : String) (value : Value) :
    UnlistedWith [value] ((Term.comparison column operator value.coerced).clause table) :=
  fun flat => unlisted_placeholder (Value.isFlat_coerced (flat value List.mem_cons_self))

/-- Joined clauses have no lists among their parameters. -/
theorem both (conjunction : Conjunction) (first : UnlistedWith values clause)
    (second : UnlistedWith others rest) :
    UnlistedWith (values ++ others) (clause.both conjunction rest) := by
  intro flat
  have first := first fun value mem => flat value (List.mem_append_left _ mem)
  have second := second fun value mem => flat value (List.mem_append_right _ mem)
  unfold Clause.both
  split
  · exact second
  · split
    · exact first
    · intro value mem
      exact (List.mem_append.1 mem).elim (first value) (second value)

/-- Parentheses add no parameters. -/
theorem enclosed (opening : String) (unlisted : UnlistedWith values clause) :
    UnlistedWith values (clause.enclosed opening) := by
  intro flat
  unfold Clause.enclosed
  split
  · exact nofun
  · exact unlisted flat

end UnlistedWith

open Condition

/-- Clauses of accepted conditions have no lists among their parameters. -/
theorem compositional_unlisted (table : String) :
    Compositional table (fun _ condition clause => UnlistedWith condition.scalars clause)
      (fun _ entries clause => UnlistedWith (entryScalars entries) clause)
      (fun _ items clause => UnlistedWith (itemScalars items) clause) where
  bare := fun _ value term only _ => by
    rcases bareTerms_cases only with ⟨n, rfl⟩ | ⟨s, rfl⟩ | ⟨s, rfl, -⟩
    · intro value mem
      rw [List.mem_singleton.1 mem]
      rfl
    · intro value mem
      rw [List.mem_singleton.1 mem]
      rfl
    · exact nofun
  map := fun _ entries clause unlisted => by
    rw [scalars]
    exact unlisted
  lists := fun _ items clause _ unlisted => by
    rw [scalars]
    exact unlisted
  only := fun _ only clause _ unlisted => by
    rw [scalars, itemScalars, itemScalars, List.append_nil]
    exact unlisted
  comparison := fun _ items column operator value _ compares _ flat => by
    have among : value ∈ scalars (.list items) := by
      unfold comparison? at compares
      split at compares
      · obtain ⟨-, -, rfl⟩ := Option.some.inj compares
        simp [scalars, itemScalars]
      · obtain ⟨-, -, rfl⟩ := Option.some.inj compares
        simp [scalars, itemScalars]
      · cases compares
    refine UnlistedWith.comparison table column operator value ?_
    intro v mem
    rw [List.mem_singleton.1 mem]
    exact flat value among
  noEntries := fun _ _ => nofun
  nested := fun conjunction key inner opening condition clause entries rest _ unlisted others => by
    rw [entryScalars]
    exact (unlisted.enclosed opening).both conjunction others
  compared := fun conjunction key column operator value entries rest _ _ others => by
    rw [entryScalars, scalars]
    exact (UnlistedWith.comparison table column operator value).both conjunction others
  noItems := fun _ _ => nofun
  item := fun conjunction item clause items rest unlisted others => by
    rw [itemScalars]
    exact unlisted.both conjunction others

/-- The clause of an accepted condition has no lists among its parameters, if no value of the
condition has a list in a list. -/
theorem unlisted_of_compile {table : String} {conjunction : Conjunction} {condition : Condition}
    {clause : Clause} (accepted : condition.compile table conjunction = .ok clause)
    (flat : Flat condition.scalars) : Unlisted clause.parameters :=
  (compositional_unlisted table).compile conjunction condition accepted flat

/-- Some texts are closed, and have neither parameters nor the end of a statement in them. -/
def AllSealed (texts : List String) : Prop :=
  ∀ text ∈ texts, Sql.Token.isSealed text = true

instance (texts : List String) : Decidable (AllSealed texts) :=
  inferInstanceAs (Decidable (∀ text ∈ texts, Sql.Token.isSealed text = true))

/-- Marks with commas between them are sealed. -/
theorem sealed_marks (n : Nat) : Sealed n (Clause.marks n).toList := by
  match n with
  | 0 => exact .nil
  | 1 => exact .mark
  | n + 2 =>
    have rest := Sealed.mark.commaText (sealed_marks (n + 1))
    have count : 1 + (n + 1) = n + 2 := by omega
    rwa [count, ← marks_succ] at rest

/-- The marks of a value are sealed. -/
theorem sealed_placeholder (value : Value) :
    Sealed (Clause.placeholder value).parameters.length (Clause.placeholder value).text.toList := by
  cases value with
  | list items => exact (sealed_marks items.length).enclosedText
  | _ => exact .mark

/-- The clause of a term is sealed if its texts are. -/
theorem sealed_term {table : String} (silent : Silent table) {term : Term}
    (owned : AllSealed term.owned) :
    Sealed (term.clause table).parameters.length (term.clause table).text.toList := by
  have asked : ∀ suffix, Silent suffix → Sealed 1 (table ++ suffix ++ " " ++ "?").toList := by
    intro suffix plain
    have whole := (silent.append plain).isSealed.spacedText Sealed.mark
    rwa [Nat.zero_add] at whole
  cases term with
  | id n =>
    have text : table ++ "_id = ?" = table ++ "_id =" ++ " " ++ "?" := by
      simp only [String.append_assoc]
      rfl
    rw [Term.clause, text]
    exact asked "_id =" (by decide)
  | name s =>
    have text : table ++ "_val = ?" = table ++ "_val =" ++ " " ++ "?" := by
      simp only [String.append_assoc]
      rfl
    rw [Term.clause, text]
    exact asked "_val =" (by decide)
  | comparison column operator value =>
    have first := Sql.sealed_of_isSealed (owned column List.mem_cons_self)
    have second :=
      Sql.sealed_of_isSealed (owned operator (List.mem_cons_of_mem _ List.mem_cons_self))
    have whole := (first.spacedText second).spacedText (sealed_placeholder value)
    rwa [Nat.zero_add] at whole
  | fragment text => exact Sql.sealed_of_isSealed (owned text List.mem_cons_self)

/-- A clause that says something is sealed if the texts of its terms are. -/
def SealedWith (terms : List Term) (clause : Clause) : Prop :=
  AllSealed (terms.flatMap Term.owned) →
    clause.isEmpty = true ∨ Sealed clause.parameters.length clause.text.toList

namespace SealedWith

variable {table : String} {terms others : List Term} {clause rest : Clause}

/-- The clause of a term is sealed. -/
theorem term (silent : Silent table) (term : Term) : SealedWith [term] (term.clause table) := by
  intro owned
  rw [List.flatMap_singleton] at owned
  exact .inr (sealed_term silent owned)

/-- Joined clauses are sealed. -/
theorem both (conjunction : Conjunction) (first : SealedWith terms clause)
    (second : SealedWith others rest) :
    SealedWith (terms ++ others) (clause.both conjunction rest) := by
  intro owned
  rw [List.flatMap_append] at owned
  have first := first fun text mem => owned text (List.mem_append_left _ mem)
  have second := second fun text mem => owned text (List.mem_append_right _ mem)
  unfold Clause.both
  by_cases nothing : clause.isEmpty = true
  · rw [if_pos nothing]
    exact second
  · rw [if_neg nothing]
    by_cases nothing' : rest.isEmpty = true
    · rw [if_pos nothing']
      exact first
    · rw [if_neg nothing']
      have word : Silent conjunction.word := by cases conjunction <;> decide
      have joined := ((first.resolve_left nothing).spacedText word.isSealed).spacedText
        (second.resolve_left nothing')
      refine .inr ?_
      rw [Clause.append, List.length_append]
      exact joined

/-- A clause in parentheses is sealed. -/
theorem enclosed {opening : String} (known : opening = "" ∨ opening = "NOT ")
    (inside : SealedWith terms clause) : SealedWith terms (clause.enclosed opening) := by
  intro owned
  unfold Clause.enclosed
  by_cases nothing : clause.isEmpty = true
  · rw [if_pos nothing]
    exact .inl rfl
  · rw [if_neg nothing]
    have wrapped := ((inside owned).resolve_left nothing).enclosedText
    refine .inr ?_
    obtain rfl | rfl := known
    · exact wrapped
    · have silent : Silent "NOT" := by decide
      have whole := silent.isSealed.spacedText wrapped
      rw [Nat.zero_add] at whole
      simpa [Clause.wrapped] using whole

end SealedWith

/-- Clauses of accepted conditions are sealed. -/
theorem compositional_sealed {table : String} (silent : Silent table) :
    Compositional table (fun _ condition clause => SealedWith condition.terms clause)
      (fun _ entries clause => SealedWith (entryTerms entries) clause)
      (fun _ items clause => SealedWith (itemTerms items) clause) where
  bare := fun _ value term only => by
    rw [terms, only]
    exact .term silent term
  map := fun _ entries clause inside => by
    rw [terms]
    exact inside
  lists := fun _ items clause lists inside => by
    rw [terms_lists lists]
    exact inside
  only := fun _ only clause flat inside => by
    rw [terms_only flat]
    exact inside
  comparison := fun _ items column operator value flat compares _ => by
    rw [terms_comparison flat compares]
    exact .term silent _
  noEntries := fun _ _ => .inl rfl
  nested := fun conjunction key inner opening condition clause entries rest nests inside others => by
    have known : opening = "" ∨ opening = "NOT " := by
      cases key with
      | group _ => exact .inl (Prod.mk.inj (Option.some.inj nests)).2.symm
      | not => exact .inr (Prod.mk.inj (Option.some.inj nests)).2.symm
      | compare _ _ => cases nests
      | column _ => cases nests
    rw [entryTerms_nested nests]
    exact (inside.enclosed known).both conjunction others
  compared := fun conjunction key column operator value entries rest compares _ others => by
    rw [entryTerms_compared compares]
    exact (SealedWith.term silent _).both conjunction others
  noItems := fun _ _ => .inl rfl
  item := fun conjunction item clause items rest inside others => by
    rw [itemTerms]
    exact inside.both conjunction others

/-- The clause of an accepted condition is sealed if it says something and the texts of the
condition are sealed. -/
theorem sealed_of_compile {table : String} {conjunction : Conjunction} {condition : Condition}
    {clause : Clause} (valid : isIdentifier table = true)
    (accepted : condition.compile table conjunction = .ok clause)
    (owned : AllSealed condition.owned) (speaks : clause.isEmpty = false) :
    Sealed clause.parameters.length clause.text.toList := by
  have inside := (compositional_sealed (Silent.identifier valid)).compile conjunction condition
    accepted owned
  exact inside.resolve_left (by simp [speaks])

end Registrar
