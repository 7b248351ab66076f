import Mathlib.Data.List.Basic
import Registrar.Proofs.Filter.Terms
import Registrar.Proofs.Sql.Comparison

/-!
# Meaning of conditions

What a condition says of a row, read off its tree: a mapping joins its entries with the conjunction
it stands under, a group changes that conjunction for its content, a negation negates the `AND` of
its content, the items of a list of lists are joined likewise but each is read with `AND`, and any
other list is a single condition or a comparison.  A group without terms says nothing and takes no
part.
-/

namespace Registrar

open Registrar.Sql

/-- The cell that a value is bound as, nothing for a list. -/
def Value.stored (value : Value) : Cell :=
  value.cell?.getD .null

/-- The cells that a compared value stands for. -/
def Value.cells : Value → List Cell
  | .list items => items.map Value.stored
  | value => [value.stored]

namespace Conjunction

/-- The truth of two conditions joined by a conjunction. -/
def join : Conjunction → Option Bool → Option Bool → Option Bool
  | .and => Cell.and
  | .or => Cell.or

/-- The meaning of two conditions of which either may say nothing. -/
def both (conjunction : Conjunction) : Option (Option Bool) → Option (Option Bool) →
    Option (Option Bool)
  | none, meaning | meaning, none => meaning
  | some a, some b => some (conjunction.join a b)

end Conjunction

/-- The truth of the comparison of a column with cells, unknown if there is no such column. -/
def columnTruth (names : Names) (env : Env) (column : String) (comparator : Comparator)
    (cells : List Cell) : Option Bool :=
  (names.operand? env column).bind fun operand => comparator.truth operand cells

/-- The truth of the comparison of a column that is there. -/
theorem columnTruth_of_operand {names : Names} {env : Env} {column : String} {operand : Operand}
    (found : names.operand? env column = some operand) (comparator : Comparator)
    (cells : List Cell) :
    columnTruth names env column comparator cells = comparator.truth operand cells := by
  rw [columnTruth, found, Option.bind_some]

namespace Term

/-- The column of a term. -/
def column? (table : String) : Term → Option String
  | .id _ => some (table ++ "_id")
  | .name _ => some (table ++ "_val")
  | .comparison column _ _ => some column
  | .fragment _ => none

/-- The truth of a term in a row. -/
def truth (table : String) (names : Names) (env : Env) : Term → Option Bool
  | .id n => columnTruth names env (table ++ "_id") (.relation .eq) [.integer n]
  | .name s => columnTruth names env (table ++ "_val") (.relation .eq) [.text s]
  | .comparison column operator value =>
    (Comparator.ofText? operator).bind fun comparator =>
      columnTruth names env column comparator value.cells
  | .fragment _ => none

/-- Whether a term compares a plain column by an operator of comparison or membership. -/
def IsPlain : Term → Prop
  | .id _ | .name _ => True
  | .comparison column operator _ =>
    IsPlainName column ∧ (Comparator.ofText? operator).isSome = true
  | .fragment _ => False

/-- Whether a term that asks for membership is given a list. -/
def IsListed : Term → Prop
  | .comparison _ operator value => isMembership operator = true → value.width?.isSome = true
  | .id _ | .name _ | .fragment _ => True

instance : DecidablePred IsPlain
  | .id _ | .name _ => isTrue trivial
  | .comparison _ _ _ => inferInstanceAs (Decidable (_ ∧ _))
  | .fragment _ => isFalse fun impossible => impossible

instance : DecidablePred IsListed
  | .comparison _ _ _ => inferInstanceAs (Decidable (_ → _))
  | .id _ | .name _ | .fragment _ => isTrue trivial

end Term

namespace Condition

section Meaning

variable (table : String) (names : Names) (env : Env)

/-- The meaning of the comparison of a column with a condition. -/
def columnMeaning (column operator : String) : Condition → Option (Option Bool)
  | .scalar value => some ((Term.comparison column operator value.coerced).truth table names env)
  | .map _ | .list _ => none

mutual

/-- What a condition whose terms are joined by a conjunction says of a row, none if it says
nothing. -/
def meaning (conjunction : Conjunction) : Condition → Option (Option Bool)
  | .scalar value => (bareTerms value).head?.map (Term.truth table names env)
  | .map entries => entriesMeaning conjunction entries
  | .list items =>
    if items.any isList then itemsMeaning conjunction items
    else
      match items with
      | [only] => meaning conjunction only
      | items =>
        match comparison? items with
        | some (column, operator, value) => columnMeaning table names env column operator value
        | none => none

/-- What the entries of a mapping say, joined by a conjunction. -/
def entriesMeaning (conjunction : Conjunction) : List (Key × Condition) → Option (Option Bool)
  | [] => none
  | (.group nested, condition) :: entries =>
    conjunction.both (meaning nested condition) (entriesMeaning conjunction entries)
  | (.not, condition) :: entries =>
    conjunction.both ((meaning .and condition).map fun truth => truth.map (! ·))
      (entriesMeaning conjunction entries)
  | (.compare column operator, condition) :: entries =>
    conjunction.both (columnMeaning table names env column operator condition)
      (entriesMeaning conjunction entries)
  | (.column column, condition) :: entries =>
    conjunction.both (columnMeaning table names env column "=" condition)
      (entriesMeaning conjunction entries)

/-- What the items of a list of lists say, each read with `AND`, joined by a conjunction. -/
def itemsMeaning (conjunction : Conjunction) : List Condition → Option (Option Bool)
  | [] => none
  | item :: items =>
    conjunction.both (meaning .and item) (itemsMeaning conjunction items)

end

variable {table names env} {items : List Condition}

/-- A list of lists means what its items mean, joined. -/
theorem meaning_lists (conjunction : Conjunction) (lists : items.any isList = true) :
    meaning table names env conjunction (.list items) =
      itemsMeaning table names env conjunction items := by
  unfold meaning
  rw [if_pos lists]

/-- A list of one condition means what the condition means. -/
theorem meaning_only (conjunction : Conjunction) {only : Condition} (flat : only.isList = false) :
    meaning table names env conjunction (.list [only]) =
      meaning table names env conjunction only := by
  rw [meaning]
  simp [flat]

/-- A list of two or three means its comparison. -/
theorem meaning_comparison (conjunction : Conjunction) (flat : items.any isList = false)
    {column operator : String} {value : Value}
    (compares : comparison? items = some (column, operator, .scalar value)) :
    meaning table names env conjunction (.list items) =
      some ((Term.comparison column operator value.coerced).truth table names env) := by
  have several := ne_single_of_comparison compares
  unfold meaning
  rw [flat]
  simp only [Bool.false_eq_true, if_false, compares]
  rfl

/-- A bare value means its term. -/
theorem meaning_bare (conjunction : Conjunction) {value : Value} {term : Term}
    (only : bareTerms value = [term]) :
    meaning table names env conjunction (.scalar value) = some (term.truth table names env) := by
  rw [meaning, only]
  rfl

/-- An entry that compares means its comparison. -/
theorem entriesMeaning_compared (conjunction : Conjunction) {key : Key} {column operator : String}
    (compares : key.comparison? = some (column, operator)) (value : Value)
    (entries : List (Key × Condition)) :
    entriesMeaning table names env conjunction ((key, .scalar value) :: entries) =
      conjunction.both
        (some ((Term.comparison column operator value.coerced).truth table names env))
        (entriesMeaning table names env conjunction entries) := by
  cases key with
  | group _ => cases compares
  | not => cases compares
  | compare _ _ =>
    obtain ⟨rfl, rfl⟩ := Prod.mk.inj (Option.some.inj compares)
    rw [entriesMeaning, columnMeaning]
  | column _ =>
    obtain ⟨rfl, rfl⟩ := Prod.mk.inj (Option.some.inj compares)
    rw [entriesMeaning, columnMeaning]

end Meaning

section Surroundings

variable {table : String} {names names' : Names} {env env' : Env}

/-- Whether the columns of some terms stand for the same in two rows. -/
def SameOperands (table : String) (names names' : Names) (env env' : Env) (terms : List Term) : Prop :=
  ∀ term ∈ terms, ∀ column, term.column? table = some column →
    names.operand? env column = names'.operand? env' column

/-- What columns stand for in parts they stand for in the whole. -/
theorem SameOperands.append {terms others : List Term} :
    SameOperands table names names' env env' (terms ++ others) ↔
      SameOperands table names names' env env' terms ∧
        SameOperands table names names' env env' others :=
  List.forall_mem_append

/-- A term is true of rows in which its column stands for the same. -/
theorem truth_congr {term : Term} (same : SameOperands table names names' env env' [term]) :
    term.truth table names env = term.truth table names' env' := by
  have own := same term List.mem_cons_self
  cases term with
  | fragment text => rfl
  | id n => rw [Term.truth, Term.truth, columnTruth, columnTruth, own _ rfl]
  | name s => rw [Term.truth, Term.truth, columnTruth, columnTruth, own _ rfl]
  | comparison column operator value =>
    simp only [Term.truth, columnTruth, own _ rfl]

/-- The comparison of a column means the same of rows in which the column stands for the same. -/
theorem columnMeaning_congr {column operator : String} (condition : Condition)
    (same : SameOperands table names names' env env' (columnTerms column operator condition)) :
    columnMeaning table names env column operator condition =
      columnMeaning table names' env' column operator condition := by
  cases condition with
  | scalar value => rw [columnMeaning, columnMeaning, truth_congr same]
  | map entries => rfl
  | list items => rfl

mutual

/-- A condition means the same of rows in which its columns stand for the same. -/
theorem meaning_congr : ∀ (conjunction : Conjunction) (condition : Condition),
    SameOperands table names names' env env' condition.terms →
      meaning table names env conjunction condition = meaning table names' env' conjunction condition
  | _, .scalar value, same => by
    rw [terms] at same
    rw [meaning, meaning]
    cases only : bareTerms value with
    | nil => rfl
    | cons term others =>
      rw [only] at same
      have own : SameOperands table names names' env env' [term] := fun t mem =>
        same t (List.mem_singleton.1 mem ▸ List.mem_cons_self)
      rw [List.head?_cons, Option.map_some, Option.map_some, truth_congr own]
  | conjunction, .map entries, same => by
    rw [terms] at same
    rw [meaning, meaning, entriesMeaning_congr conjunction entries same]
  | conjunction, .list [], _ => by simp [meaning, comparison?]
  | conjunction, .list [only], same => by
    cases flat : only.isList with
    | false =>
      rw [terms_only flat] at same
      rw [meaning_only conjunction flat, meaning_only conjunction flat]
      exact meaning_congr conjunction only same
    | true =>
      have lists : [only].any isList = true := by rw [List.any_cons, flat, Bool.true_or]
      rw [terms_lists lists] at same
      rw [meaning_lists conjunction lists, meaning_lists conjunction lists]
      exact itemsMeaning_congr conjunction [only] same
  | conjunction, .list (first :: second :: others), same => by
    by_cases lists : (first :: second :: others).any isList = true
    · rw [terms_lists lists] at same
      rw [meaning_lists conjunction lists, meaning_lists conjunction lists]
      exact itemsMeaning_congr conjunction _ same
    · rw [Bool.not_eq_true] at lists
      cases compares : comparison? (first :: second :: others) with
      | none => simp only [meaning, lists, compares, Bool.false_eq_true, if_false]
      | some comparison =>
        simp only [terms, lists, compares, Bool.false_eq_true, if_false] at same
        simp only [meaning, lists, compares, Bool.false_eq_true, if_false]
        exact columnMeaning_congr _ same

/-- The entries of a mapping mean the same of rows in which their columns stand for the same. -/
theorem entriesMeaning_congr : ∀ (conjunction : Conjunction) (entries : List (Key × Condition)),
    SameOperands table names names' env env' (entryTerms entries) →
      entriesMeaning table names env conjunction entries =
        entriesMeaning table names' env' conjunction entries
  | _, [], _ => rfl
  | conjunction, (key, condition) :: entries, same => by
    rw [entryTerms, SameOperands.append] at same
    have others := entriesMeaning_congr conjunction entries same.2
    cases key with
    | group nested =>
      rw [entriesMeaning, entriesMeaning, meaning_congr nested condition same.1, others]
    | not => rw [entriesMeaning, entriesMeaning, meaning_congr .and condition same.1, others]
    | compare column operator =>
      rw [entriesMeaning, entriesMeaning, columnMeaning_congr condition same.1, others]
    | column column => rw [entriesMeaning, entriesMeaning, columnMeaning_congr condition same.1, others]

/-- The items of a list of lists mean the same of rows in which their columns stand for the same. -/
theorem itemsMeaning_congr : ∀ (conjunction : Conjunction) (items : List Condition),
    SameOperands table names names' env env' (itemTerms items) →
      itemsMeaning table names env conjunction items =
        itemsMeaning table names' env' conjunction items
  | _, [], _ => rfl
  | conjunction, item :: items, same => by
    rw [itemTerms, SameOperands.append] at same
    rw [itemsMeaning, itemsMeaning, meaning_congr .and item same.1,
      itemsMeaning_congr conjunction items same.2]

end

end Surroundings

section Equations

variable {table column : String} {value : Value} {condition : Condition}

/-- The conditions that a column equals a value: a mapping of one entry, and a list of two. -/
def equations (column : String) (value : Value) : List Condition :=
  [.map [(.column column, .scalar value)], .list [.scalar (.text column), .scalar value]]

/-- What equals a value is compared with what the value is coerced to. -/
theorem terms_of_equations (mem : condition ∈ equations column value) :
    condition.terms = [.comparison column "=" value.coerced] ∧ condition.leafless = false := by
  rcases List.mem_pair.1 mem with rfl | rfl
  · exact ⟨rfl, rfl⟩
  · exact ⟨rfl, rfl⟩

/-- That a column equals a value means the comparison. -/
theorem meaning_of_equations (mem : condition ∈ equations column value) (names : Names) (env : Env) :
    condition.meaning table names env .and =
      some ((Term.comparison column "=" value.coerced).truth table names env) := by
  rcases List.mem_pair.1 mem with rfl | rfl
  · rfl
  · rfl

/-- The clause of an equation is that of its comparison. -/
theorem clause_of_equations (mem : condition ∈ equations column value) {clause : Clause}
    (accepted : Clause.comparison column "=" value.coerced = .ok clause)
    (speaks : clause.isEmpty = false) : condition.clause table = .ok clause := by
  rcases List.mem_pair.1 mem with rfl | rfl
  · simp only [Condition.clause, compile, compileEntries, ofColumn, scalar?, accepted, bind,
      Except.bind, Clause.join_cons, Clause.join_nil]
    rw [Clause.both, speaks]
    rfl
  · exact accepted

/-- An equation is refused as its comparison is. -/
theorem clause_of_refused (mem : condition ∈ equations column value) {f : Failure}
    (refused : Clause.comparison column "=" value.coerced = .error f) :
    condition.clause table = .error f := by
  rcases List.mem_pair.1 mem with rfl | rfl
  · simp only [Condition.clause, compile, compileEntries, ofColumn, scalar?, refused, bind, Except.bind]
  · exact refused

end Equations

end Condition

/-- A column equals a value that is no list by one mark. -/
theorem Clause.comparison_single (column : String) {value : Value} (single : value.width? = none) :
    Clause.comparison column "=" value = .ok ⟨column ++ " = ?", [value]⟩ := by
  have text : column ++ " " ++ "=" ++ " ?" = column ++ " = ?" := by
    rw [← String.toList_inj]
    simp
  rw [← text]
  cases value with
  | list items => cases single
  | _ => rfl

/-- An equation says something. -/
theorem Clause.isEmpty_equation (column : String) (values : List Value) :
    Clause.isEmpty ⟨column ++ " = ?", values⟩ = false :=
  Clause.isBlankText_append_of_right column (by decide)

end Registrar
