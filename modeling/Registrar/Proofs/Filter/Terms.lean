import Registrar.Proofs.Outcome

/-!
# Terms of a condition

What a condition says without further parts: comparisons and ready-made fragments.
`Condition.terms` lists them in the order of the tree, and `Condition.leafless` says that a tree
holds none.  Clauses
are put together in three ways only: the clause of a term, one clause behind another, and a clause
in parentheses.  `Compositional.compile` turns that into an induction over conditions and their
clauses.
-/

namespace Registrar

open Registrar.Number

/-- What a condition says without further parts. -/
inductive Term where
  /-- The id of the table's row is a number. -/
  | id (n : Int64)
  /-- The name of the table's row is a text. -/
  | name (s : String)
  | comparison (column operator : String) (value : Value)
  /-- Ready-made text. -/
  | fragment (text : String)

/-- The clause of a term. -/
def Term.clause (table : String) : Term → Clause
  | .id n => ⟨table ++ "_id = ?", [.integer n]⟩
  | .name s => ⟨table ++ "_val = ?", [.text s]⟩
  | .comparison column operator value =>
    let compared := Clause.placeholder value
    ⟨column ++ " " ++ operator ++ " " ++ compared.text, compared.parameters⟩
  | .fragment text => Clause.raw text

/-- The length of a list; other values have none. -/
def Value.width? : Value → Option Nat
  | .list items => some items.length
  | _ => none

/-- Whether a value may be compared by an operator: a list takes membership. -/
def Value.Suits (operator : String) : Value → Prop
  | .list _ => isMembership operator = true
  | _ => True

/-- The nested conjunction of a key and the word before its parentheses, if the key nests. -/
def Key.nesting? : Key → Option (Conjunction × String)
  | .group conjunction => some (conjunction, "")
  | .not => some (.and, "NOT ")
  | .compare _ _ | .column _ => none

/-- The column and the operator of a key, if the key compares. -/
def Key.comparison? : Key → Option (String × String)
  | .compare name operator => some (name, operator)
  | .column name => some (name, "=")
  | .group _ | .not => none

namespace Condition

/-- The term of a bare value, if it is one that may stand bare. -/
def bareTerms : Value → List Term
  | .integer n => [.id n]
  | .text s =>
    match integerText? s with
    | some n => [.id n]
    | none => if hasComparator s then [.fragment s] else [.name s]
  | _ => []

/-- The comparison of a column with the coerced value of a condition. -/
def columnTerms (column operator : String) : Condition → List Term
  | .scalar value => [.comparison column operator value.coerced]
  | .map _ | .list _ => []

/-- The column, the operator and the compared condition of a list of two or three. -/
def comparison? : List Condition → Option (String × String × Condition)
  | [.scalar (.text column), value] => some (column, "=", value)
  | [.scalar (.text column), .scalar (.text operator), value] => some (column, operator, value)
  | _ => none

mutual

/-- The terms of a condition, in the order of the tree. -/
def terms : Condition → List Term
  | .scalar value => bareTerms value
  | .map entries => entryTerms entries
  | .list items =>
    if items.any isList then itemTerms items
    else
      match items with
      | [only] => terms only
      | items =>
        match comparison? items with
        | some (column, operator, value) => columnTerms column operator value
        | none => []

/-- The terms of the entries of a mapping. -/
def entryTerms : List (Key × Condition) → List Term
  | [] => []
  | (key, condition) :: entries =>
    (match key.comparison? with
      | some (column, operator) => columnTerms column operator condition
      | none => terms condition) ++ entryTerms entries

/-- The terms of the items of a list. -/
def itemTerms : List Condition → List Term
  | [] => []
  | item :: items => terms item ++ itemTerms items

end

mutual

/-- Whether a condition holds no comparison at any depth: mappings of nothing but groups and
negations of such conditions, alone in a list, or in lists of lists. -/
def leafless : Condition → Bool
  | .scalar _ => false
  | .map entries => leaflessEntries entries
  | .list items =>
    if items.any isList then leaflessItems items
    else
      match items with
      | [only] => leafless only
      | _ => false

/-- Whether no entry of a mapping holds a comparison. -/
def leaflessEntries : List (Key × Condition) → Bool
  | [] => true
  | (key, condition) :: entries =>
    key.nesting?.isSome && leafless condition && leaflessEntries entries

/-- Whether no item of a list holds a comparison. -/
def leaflessItems : List Condition → Bool
  | [] => true
  | item :: items => leafless item && leaflessItems items

end

end Condition

namespace Condition

/-- A bare value asks for an id or a name, or is text that compares something. -/
theorem bareTerms_cases {value : Value} {term : Term} (only : bareTerms value = [term]) :
    (∃ n, term = .id n) ∨ (∃ s, term = .name s) ∨
      ∃ s, term = .fragment s ∧ hasComparator s = true := by
  cases value with
  | integer n => exact .inl ⟨n, (List.singleton_inj.1 only).symm⟩
  | text s =>
    cases read : integerText? s with
    | some n =>
      simp only [bareTerms, read] at only
      exact .inl ⟨n, (List.singleton_inj.1 only).symm⟩
    | none =>
      by_cases compares : hasComparator s = true
      · simp only [bareTerms, read, compares, if_true] at only
        exact .inr (.inr ⟨s, (List.singleton_inj.1 only).symm, compares⟩)
      · simp only [bareTerms, read, compares, Bool.false_eq_true, if_false] at only
        exact .inr (.inl ⟨s, (List.singleton_inj.1 only).symm⟩)
  | _ => cases only

section Lists

variable {items : List Condition}

/-- A list that compares is no single condition. -/
theorem ne_single_of_comparison {column operator : String} {condition : Condition}
    (compares : comparison? items = some (column, operator, condition)) (only : Condition) :
    items ≠ [only] := by
  rintro rfl
  unfold comparison? at compares
  split at compares <;> simp_all

/-- The terms of a list of lists are those of its items. -/
theorem terms_lists (lists : items.any isList = true) : terms (.list items) = itemTerms items := by
  unfold terms
  rw [if_pos lists]

/-- The terms of a list of one condition are those of the condition. -/
theorem terms_only {only : Condition} (flat : only.isList = false) :
    terms (.list [only]) = terms only := by
  rw [terms]
  simp [flat]

/-- The term of a list of two or three is its comparison. -/
theorem terms_comparison (flat : items.any isList = false) {column operator : String}
    {value : Value} (compares : comparison? items = some (column, operator, .scalar value)) :
    terms (.list items) = [.comparison column operator value.coerced] := by
  have several := ne_single_of_comparison compares
  unfold terms
  rw [flat]
  simp only [Bool.false_eq_true, if_false, compares]
  rfl

/-- A list of lists is leafless if its items are. -/
theorem leafless_lists (lists : items.any isList = true) :
    leafless (.list items) = leaflessItems items := by
  unfold leafless
  rw [if_pos lists]

/-- A list of one condition is leafless if the condition is. -/
theorem leafless_only {only : Condition} (flat : only.isList = false) :
    leafless (.list [only]) = leafless only := by
  rw [leafless]
  simp [flat]

/-- A comparison is not leafless. -/
theorem leafless_comparison (flat : items.any isList = false) {column operator : String}
    {value : Value} (compares : comparison? items = some (column, operator, .scalar value)) :
    leafless (.list items) = false := by
  have several := ne_single_of_comparison compares
  unfold leafless
  rw [flat]
  simp only [Bool.false_eq_true, if_false]

end Lists

/-- The terms of an entry that nests are those of its condition. -/
theorem entryTerms_nested {key : Key} {inner : Conjunction} {opening : String}
    (nests : key.nesting? = some (inner, opening)) (condition : Condition)
    (entries : List (Key × Condition)) :
    entryTerms ((key, condition) :: entries) = terms condition ++ entryTerms entries := by
  have other : key.comparison? = none := by
    cases key with
    | group _ => rfl
    | not => rfl
    | compare _ _ => cases nests
    | column _ => cases nests
  rw [entryTerms, other]

/-- The term of an entry that compares is its comparison. -/
theorem entryTerms_compared {key : Key} {column operator : String}
    (compares : key.comparison? = some (column, operator)) (value : Value)
    (entries : List (Key × Condition)) :
    entryTerms ((key, .scalar value) :: entries) =
      .comparison column operator value.coerced :: entryTerms entries := by
  rw [entryTerms, compares]
  rfl

/-- A key that compares does not nest. -/
theorem nesting?_of_comparison? {key : Key} {pair : String × String}
    (compares : key.comparison? = some pair) : key.nesting? = none := by
  cases key with
  | group _ => cases compares
  | not => cases compares
  | compare _ _ => rfl
  | column _ => rfl

end Condition

namespace Clause

/-- One clause behind another, unless either says nothing. -/
def both (conjunction : Conjunction) (a b : Clause) : Clause :=
  if a.isEmpty then b
  else if b.isEmpty then a
  else append conjunction.word a b

/-- A clause in parentheses, nothing if it says nothing. -/
def enclosed (opening : String) (clause : Clause) : Clause :=
  if clause.isEmpty then empty else clause.wrapped opening

/-- A text behind which visible text stands is not blank. -/
theorem isBlankText_append_of_right (a : String) {b : String}
    (visible : Text.isBlankText b = false) : Text.isBlankText (a ++ b) = false := by
  simp only [Text.isBlankText] at visible ⊢
  rw [String.toList_append, List.all_append, visible, Bool.and_false]

/-- The empty clause says nothing. -/
@[simp] theorem isEmpty_empty : empty.isEmpty = true :=
  rfl

/-- Clauses of which the second says something say something. -/
theorem isEmpty_append (word : String) (a : Clause) {b : Clause} (speaks : b.isEmpty = false) :
    (append word a b).isEmpty = false :=
  isBlankText_append_of_right _ speaks

/-- Parentheses say something. -/
theorem isEmpty_wrapped (opening : String) (clause : Clause) :
    (clause.wrapped opening).isEmpty = false :=
  isBlankText_append_of_right _ (by decide)

/-- Clauses that say something are joined into one that does, unless there are none. -/
theorem isEmpty_joinAll (conjunction : Conjunction) {clauses : List Clause}
    (say : ∀ clause ∈ clauses, clause.isEmpty = false) (present : clauses ≠ []) :
    (joinAll conjunction clauses).isEmpty = false := by
  induction clauses with
  | nil => exact absurd rfl present
  | cons clause clauses ih =>
    cases clauses with
    | nil => exact say clause List.mem_cons_self
    | cons next clauses =>
      have rest := ih (fun c mem => say c (List.mem_cons_of_mem clause mem)) (List.cons_ne_nil _ _)
      exact isEmpty_append conjunction.word clause rest

/-- Joined clauses are the first one and the others, joined. -/
theorem join_cons (conjunction : Conjunction) (clause : Clause) (clauses : List Clause) :
    join conjunction (clause :: clauses) = both conjunction clause (join conjunction clauses) := by
  unfold join both
  cases speaks : clause.isEmpty with
  | true => simp [speaks]
  | false =>
    have kept : (clause :: clauses).filter (fun c => !c.isEmpty) =
        clause :: clauses.filter (fun c => !c.isEmpty) := by simp [speaks]
    rw [kept]
    cases others : clauses.filter (fun c => !c.isEmpty) with
    | nil => simp [joinAll]
    | cons next rest =>
      have say : ∀ c ∈ next :: rest, c.isEmpty = false := by
        rw [← others]
        intro c mem
        simpa using (List.mem_filter.1 mem).2
      have more := isEmpty_joinAll conjunction say (List.cons_ne_nil _ _)
      simp [joinAll, more]

/-- No clauses are joined into the empty one. -/
@[simp] theorem join_nil (conjunction : Conjunction) : join conjunction [] = empty :=
  rfl

/-- A clause in parentheses is joined as one that is left out if it says nothing. -/
theorem join_wrappedUnlessEmpty (conjunction : Conjunction) (opening : String) (clause : Clause)
    (clauses : List Clause) :
    join conjunction (clause.wrappedUnlessEmpty opening ++ clauses) =
      both conjunction (clause.enclosed opening) (join conjunction clauses) := by
  unfold wrappedUnlessEmpty enclosed
  cases clause.isEmpty with
  | true => simp [both]
  | false => exact join_cons conjunction (clause.wrapped opening) clauses

end Clause

namespace Condition

/-- A bare value is accepted as its term. -/
theorem of_ofScalar {table : String} {value : Value} {clause : Clause}
    (accepted : ofScalar table value = .ok clause) :
    ∃ term, bareTerms value = [term] ∧ clause = term.clause table := by
  cases value with
  | integer n => exact ⟨.id n, rfl, (Except.ok.inj accepted).symm⟩
  | text s =>
    cases read : integerText? s with
    | some n =>
      simp only [ofScalar, read, Except.ok.injEq] at accepted
      exact ⟨.id n, by simp [bareTerms, read], accepted.symm⟩
    | none =>
      by_cases compares : hasComparator s = true
      · simp only [ofScalar, read, compares, if_true, Except.ok.injEq] at accepted
        exact ⟨.fragment s, by simp [bareTerms, read, compares], accepted.symm⟩
      · simp only [ofScalar, read, compares, Bool.false_eq_true, if_false, Except.ok.injEq]
          at accepted
        exact ⟨.name s, by simp [bareTerms, read, compares], accepted.symm⟩
  | _ => cases accepted

/-- A comparison is accepted as its term, when it compares with a value that its operator takes. -/
theorem of_comparison (table : String) {column operator : String} {value : Value} {clause : Clause}
    (accepted : Clause.comparison column operator value = .ok clause) :
    value.Suits operator ∧ clause = (Term.comparison column operator value).clause table := by
  have single : ∀ v : Value, Clause.placeholder v = ⟨"?", [v]⟩ →
      Clause.mk (column ++ " " ++ operator ++ " ?") [v] =
        (Term.comparison column operator v).clause table := by
    intro v placeholder
    simp only [Term.clause, placeholder, String.append_assoc]
    rfl
  cases value with
  | list items =>
    by_cases member : isMembership operator = true
    · simp only [Clause.comparison, if_pos member, Except.ok.injEq] at accepted
      exact ⟨member, accepted.symm⟩
    · simp only [Clause.comparison, if_neg member, reduceCtorEq] at accepted
  | _ =>
    simp only [Clause.comparison, Except.ok.injEq] at accepted
    rw [← accepted]
    exact ⟨trivial, single _ rfl⟩

/-- A column is accepted with a scalar that its operator takes. -/
theorem of_ofColumn (table : String) {column operator : String} {condition : Condition}
    {clause : Clause} (accepted : ofColumn column operator condition = .ok clause) :
    ∃ value, condition = .scalar value ∧ value.coerced.Suits operator ∧
      clause = (Term.comparison column operator value.coerced).clause table := by
  cases condition with
  | scalar value => exact ⟨value, rfl, of_comparison table accepted⟩
  | map entries => cases accepted
  | list items => cases accepted

end Condition

/-- Properties of conditions, of entries of mappings and of items of lists, with their clauses,
that hold of terms and carry over to what is put together from them. -/
structure Compositional (table : String) (ofCondition : Conjunction → Condition → Clause → Prop)
    (ofEntries : Conjunction → List (Key × Condition) → Clause → Prop)
    (ofItems : Conjunction → List Condition → Clause → Prop) : Prop where
  bare : ∀ conjunction value term, Condition.bareTerms value = [term] →
    ofCondition conjunction (.scalar value) (term.clause table)
  map : ∀ conjunction entries clause, ofEntries conjunction entries clause →
    ofCondition conjunction (.map entries) clause
  lists : ∀ conjunction items clause, items.any Condition.isList = true →
    ofItems conjunction items clause → ofCondition conjunction (.list items) clause
  only : ∀ conjunction only clause, only.isList = false → ofCondition conjunction only clause →
    ofCondition conjunction (.list [only]) clause
  comparison : ∀ conjunction items column operator value, items.any Condition.isList = false →
    Condition.comparison? items = some (column, operator, .scalar value) →
    value.coerced.Suits operator →
    ofCondition conjunction (.list items)
      ((Term.comparison column operator value.coerced).clause table)
  noEntries : ∀ conjunction, ofEntries conjunction [] Clause.empty
  nested : ∀ conjunction key inner opening condition clause entries rest,
    Key.nesting? key = some (inner, opening) → ofCondition inner condition clause →
    ofEntries conjunction entries rest →
    ofEntries conjunction ((key, condition) :: entries)
      ((clause.enclosed opening).both conjunction rest)
  compared : ∀ conjunction key column operator value entries rest,
    Key.comparison? key = some (column, operator) → value.coerced.Suits operator →
    ofEntries conjunction entries rest →
    ofEntries conjunction ((key, .scalar value) :: entries)
      (((Term.comparison column operator value.coerced).clause table).both conjunction rest)
  noItems : ∀ conjunction, ofItems conjunction [] Clause.empty
  item : ∀ conjunction item clause items rest, ofCondition .and item clause →
    ofItems conjunction items rest →
    ofItems conjunction (item :: items) (clause.both conjunction rest)

namespace Compositional

open Condition

variable {table : String} {ofCondition : Conjunction → Condition → Clause → Prop}
  {ofEntries : Conjunction → List (Key × Condition) → Clause → Prop}
  {ofItems : Conjunction → List Condition → Clause → Prop}

/-- An entry that nests is accepted with its condition under the nested conjunction. -/
theorem of_nesting {key : Key} {inner : Conjunction} {opening : String}
    (nests : key.nesting? = some (inner, opening)) {condition : Condition}
    {entries : List (Key × Condition)} {clauses : List Clause}
    (accepted : compileEntries table ((key, condition) :: entries) = .ok clauses) :
    ∃ clause rest, condition.compile table inner = .ok clause ∧
      compileEntries table entries = .ok rest ∧
      clauses = clause.wrappedUnlessEmpty opening ++ rest := by
  cases key with
  | group conjunction =>
    obtain ⟨rfl, rfl⟩ := Prod.mk.inj (Option.some.inj nests)
    obtain ⟨clause, compiled, accepted⟩ := bind_eq_ok accepted
    obtain ⟨rest, behind, accepted⟩ := bind_eq_ok accepted
    exact ⟨clause, rest, compiled, behind, (Except.ok.inj accepted).symm⟩
  | not =>
    obtain ⟨rfl, rfl⟩ := Prod.mk.inj (Option.some.inj nests)
    obtain ⟨clause, compiled, accepted⟩ := bind_eq_ok accepted
    obtain ⟨rest, behind, accepted⟩ := bind_eq_ok accepted
    exact ⟨clause, rest, compiled, behind, (Except.ok.inj accepted).symm⟩
  | compare name operator => cases nests
  | column name => cases nests

/-- An entry that compares is accepted with the comparison of its column. -/
theorem of_comparing {key : Key} {column operator : String}
    (compares : key.comparison? = some (column, operator)) {condition : Condition}
    {entries : List (Key × Condition)} {clauses : List Clause}
    (accepted : compileEntries table ((key, condition) :: entries) = .ok clauses) :
    ∃ clause rest, ofColumn column operator condition = .ok clause ∧
      compileEntries table entries = .ok rest ∧ clauses = clause :: rest := by
  cases key with
  | group conjunction => cases compares
  | not => cases compares
  | compare name op =>
    obtain ⟨rfl, rfl⟩ := Prod.mk.inj (Option.some.inj compares)
    obtain ⟨clause, compiled, accepted⟩ := bind_eq_ok accepted
    obtain ⟨rest, behind, accepted⟩ := bind_eq_ok accepted
    exact ⟨clause, rest, compiled, behind, (Except.ok.inj accepted).symm⟩
  | column name =>
    obtain ⟨rfl, rfl⟩ := Prod.mk.inj (Option.some.inj compares)
    obtain ⟨clause, compiled, accepted⟩ := bind_eq_ok accepted
    obtain ⟨rest, behind, accepted⟩ := bind_eq_ok accepted
    exact ⟨clause, rest, compiled, behind, (Except.ok.inj accepted).symm⟩

/-- A key nests or compares. -/
theorem nesting_or_comparison (key : Key) :
    (∃ inner opening, key.nesting? = some (inner, opening)) ∨
      ∃ column operator, key.comparison? = some (column, operator) := by
  cases key with
  | group _ => exact .inl ⟨_, _, rfl⟩
  | not => exact .inl ⟨_, _, rfl⟩
  | compare _ _ => exact .inr ⟨_, _, rfl⟩
  | column _ => exact .inr ⟨_, _, rfl⟩

/-- A list without lists is accepted alone, or as a comparison. -/
theorem of_flat {items : List Condition} (flat : items.any isList = false)
    {conjunction : Conjunction} {clause : Clause}
    (accepted : Condition.compile table conjunction (.list items) = .ok clause) :
    (∃ only, items = [only] ∧ only.compile table conjunction = .ok clause) ∨
      ∃ column operator condition, comparison? items = some (column, operator, condition) ∧
        ofColumn column operator condition = .ok clause := by
  have named : ∀ {c : Condition} {name : String}, c.name? = .ok name →
      c = .scalar (.text name) := by
    intro c name read
    unfold Condition.name? at read
    split at read
    · exact congrArg (fun s => Condition.scalar (.text s)) (Except.ok.inj read)
    · cases read
  unfold Condition.compile at accepted
  simp only [flat, Bool.false_eq_true, if_false] at accepted
  split at accepted
  · next only => exact .inl ⟨only, rfl, accepted⟩
  · next first value =>
    obtain ⟨column, read, accepted⟩ := bind_eq_ok accepted
    obtain rfl := named read
    exact .inr ⟨column, "=", value, rfl, accepted⟩
  · next first second value =>
    obtain ⟨column, read, accepted⟩ := bind_eq_ok accepted
    obtain ⟨operator, read', accepted⟩ := bind_eq_ok accepted
    obtain rfl := named read
    obtain rfl := named read'
    exact .inr ⟨column, operator, value, rfl, accepted⟩
  · cases accepted

mutual

/-- What is compositional holds of every condition that is accepted, with its clause. -/
theorem compile (holds : Compositional table ofCondition ofEntries ofItems) :
    ∀ (conjunction : Conjunction) (condition : Condition) {clause : Clause},
      condition.compile table conjunction = .ok clause → ofCondition conjunction condition clause
  | conjunction, .scalar value, clause, accepted => by
    obtain ⟨term, bare, rfl⟩ := of_ofScalar accepted
    exact holds.bare conjunction value term bare
  | conjunction, .map entries, clause, accepted => by
    obtain ⟨parts, compiled, accepted⟩ := bind_eq_ok accepted
    rw [← Except.ok.inj accepted]
    exact holds.map conjunction entries _ (holds.entries conjunction entries compiled)
  | conjunction, .list items, clause, accepted => by
    by_cases lists : items.any isList = true
    · unfold Condition.compile at accepted
      simp only [lists, if_true] at accepted
      obtain ⟨parts, compiled, accepted⟩ := bind_eq_ok accepted
      rw [← Except.ok.inj accepted]
      exact holds.lists conjunction items _ lists (holds.items conjunction items compiled)
    · rw [Bool.not_eq_true] at lists
      rcases of_flat lists accepted with ⟨only, rfl, compiled⟩ | ⟨column, operator, condition,
        compares, compiled⟩
      · have flat : only.isList = false := by simpa using lists
        exact holds.only conjunction only clause flat (holds.compile conjunction only compiled)
      · obtain ⟨value, rfl, suits, rfl⟩ := of_ofColumn table compiled
        exact holds.comparison conjunction items column operator value lists compares suits

/-- What is compositional holds of the entries of every mapping that is accepted. -/
theorem entries (holds : Compositional table ofCondition ofEntries ofItems) :
    ∀ (conjunction : Conjunction) (entries : List (Key × Condition)) {clauses : List Clause},
      compileEntries table entries = .ok clauses →
      ofEntries conjunction entries (Clause.join conjunction clauses)
  | conjunction, [], clauses, accepted => by
    obtain rfl := Except.ok.inj accepted
    exact holds.noEntries conjunction
  | conjunction, (key, condition) :: entries, clauses, accepted => by
    rcases nesting_or_comparison key with ⟨inner, opening, nests⟩ | ⟨column, operator, compares⟩
    · obtain ⟨clause, rest, compiled, behind, rfl⟩ := of_nesting nests accepted
      rw [Clause.join_wrappedUnlessEmpty]
      exact holds.nested conjunction key inner opening condition clause entries _ nests
        (holds.compile inner condition compiled) (holds.entries conjunction entries behind)
    · obtain ⟨clause, rest, compiled, behind, rfl⟩ := of_comparing compares accepted
      obtain ⟨value, rfl, suits, rfl⟩ := of_ofColumn table compiled
      rw [Clause.join_cons]
      exact holds.compared conjunction key column operator value entries _ compares suits
        (holds.entries conjunction entries behind)

/-- What is compositional holds of the items of every list of lists that is accepted. -/
theorem items (holds : Compositional table ofCondition ofEntries ofItems) :
    ∀ (conjunction : Conjunction) (items : List Condition) {clauses : List Clause},
      compileItems table items = .ok clauses →
      ofItems conjunction items (Clause.join conjunction clauses)
  | conjunction, [], clauses, accepted => by
    obtain rfl := Except.ok.inj accepted
    exact holds.noItems conjunction
  | conjunction, item :: items, clauses, accepted => by
    obtain ⟨clause, compiled, accepted⟩ := bind_eq_ok accepted
    obtain ⟨rest, behind, accepted⟩ := bind_eq_ok accepted
    rw [← Except.ok.inj accepted, Clause.join_cons]
    exact holds.item conjunction item clause items _ (holds.compile .and item compiled)
      (holds.items conjunction items behind)

end

end Compositional

end Registrar
