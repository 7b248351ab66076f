import Mathlib.Data.List.Forall2
import Registrar.Proofs.Filter.Terms

/-!
# Shapes of conditions

The text of a clause depends on the shape of its condition alone: on keys, columns, operators and
ready-made fragments, on the kind of every bare value, and on whether a compared value is a list and
how long.  `SameShape` relates two conditions that agree in all of that and may differ in every
value; `compile_sameShape` says that they are accepted or refused together, with the same text and
as many parameters.
-/

namespace Registrar

open Registrar.Number

/-- What the clause of a bare value depends on, apart from the value of a parameter. -/
inductive BareKind where
  | number
  | plain
  | fragment (text : String)
  | unsupported
deriving DecidableEq

/-- The kind of a bare value. -/
def Value.bareKind : Value → BareKind
  | .integer _ => .number
  | .text s =>
    if (integerText? s).isSome then .number
    else if hasComparator s then .fragment s
    else .plain
  | _ => .unsupported

/-- Two results are both failures, or both values of which something holds. -/
inductive Alike {α : Type} (R : α → α → Prop) : Except Failure α → Except Failure α → Prop where
  | failures (f g : Failure) : Alike R (.error f) (.error g)
  | values {a b : α} : R a b → Alike R (.ok a) (.ok b)

/-- What is alike stays so through steps that keep it. -/
theorem Alike.bind {α β : Type} {R : α → α → Prop} {S : β → β → Prop} {x y : Except Failure α}
    {f g : α → Except Failure β} (alike : Alike R x y) (step : ∀ a b, R a b → Alike S (f a) (g b)) :
    Alike S (x >>= f) (y >>= g) := by
  cases alike with
  | failures f g => exact .failures f g
  | values related => exact step _ _ related

/-- What is the same is alike. -/
theorem Alike.refl {α : Type} {R : α → α → Prop} (refl : ∀ a, R a a) (x : Except Failure α) :
    Alike R x x := by
  cases x with
  | error f => exact .failures f f
  | ok a => exact .values (refl a)

/-- Two clauses of the same text with as many parameters. -/
def Clause.Alike (a b : Clause) : Prop :=
  a.text = b.text ∧ a.parameters.length = b.parameters.length

/-- Two statements of the same text with as many parameters. -/
def Statement.Alike (a b : Statement) : Prop :=
  a.text = b.text ∧ a.parameters.length = b.parameters.length

namespace Condition

/-- The name that a condition gives, if it gives one. -/
def nameText? : Condition → Option String
  | .scalar (.text s) => some s
  | _ => none

/-- Whether two compared conditions are both no scalars, or are coerced to values of the same
width. -/
def SameOperand : Condition → Condition → Prop
  | .scalar v, .scalar w => v.coerced.width? = w.coerced.width?
  | .scalar _, _ | _, .scalar _ => False
  | _, _ => True

mutual

/-- Whether two conditions differ in nothing but values that their text does not depend on. -/
def SameShape : Condition → Condition → Prop
  | .scalar v, .scalar w => v.bareKind = w.bareKind
  | .map entries, .map others => SameEntries entries others
  | .list items, .list others =>
    if items.any isList then others.any isList = true ∧ SameItems items others
    else
      others.any isList = false ∧
        match items, others with
        | [only], [other] => SameShape only other
        | [column, value], [column', value'] =>
          column.nameText? = column'.nameText? ∧ SameOperand value value'
        | [column, operator, value], [column', operator', value'] =>
          column.nameText? = column'.nameText? ∧ operator.nameText? = operator'.nameText? ∧
            SameOperand value value'
        | items, others => items.length = others.length
  | _, _ => False

/-- Whether two mappings have the same keys, with conditions that differ in values only. -/
def SameEntries : List (Key × Condition) → List (Key × Condition) → Prop
  | [], [] => True
  | (key, condition) :: entries, (key', condition') :: others =>
    key = key' ∧
      (match key.nesting? with
        | some _ => SameShape condition condition'
        | none => SameOperand condition condition') ∧
      SameEntries entries others
  | _, _ => False

/-- Whether two lists of lists have items that differ in values only. -/
def SameItems : List Condition → List Condition → Prop
  | [], [] => True
  | item :: items, item' :: others => SameShape item item' ∧ SameItems items others
  | _, _ => False

end

/-- The clause of a bare value is determined by its kind, up to the value of its parameter. -/
theorem ofScalar_alike (table : String) {v w : Value} (same : v.bareKind = w.bareKind) :
    Registrar.Alike Clause.Alike (ofScalar table v) (ofScalar table w) := by
  have byKind : ∀ v : Value,
      match v.bareKind with
      | .number => ∃ n, ofScalar table v = .ok ⟨table ++ "_id = ?", [.integer n]⟩
      | .plain => ∃ s, ofScalar table v = .ok ⟨table ++ "_val = ?", [.text s]⟩
      | .fragment text => ofScalar table v = .ok (Clause.raw text)
      | .unsupported => ∃ f, ofScalar table v = .error f := by
    intro v
    cases v with
    | integer n => exact ⟨n, rfl⟩
    | text s =>
      cases read : integerText? s with
      | some n => simp [Value.bareKind, ofScalar, read]
      | none => by_cases compares : hasComparator s = true <;>
          simp [Value.bareKind, ofScalar, read, compares]
    | _ => exact ⟨_, rfl⟩
  have first := byKind v
  have second := byKind w
  rw [← same] at second
  cases kind : v.bareKind with
  | number =>
    simp only [kind] at first second
    obtain ⟨n, first⟩ := first
    obtain ⟨m, second⟩ := second
    rw [first, second]
    exact .values ⟨rfl, rfl⟩
  | plain =>
    simp only [kind] at first second
    obtain ⟨s, first⟩ := first
    obtain ⟨t, second⟩ := second
    rw [first, second]
    exact .values ⟨rfl, rfl⟩
  | fragment text =>
    simp only [kind] at first second
    rw [first, second]
    exact .values ⟨rfl, rfl⟩
  | unsupported =>
    simp only [kind] at first second
    obtain ⟨f, first⟩ := first
    obtain ⟨g, second⟩ := second
    rw [first, second]
    exact .failures f g

/-- The clause of a comparison is determined by the width of its value, up to the values of its
parameters. -/
theorem comparison_alike (column operator : String) {v w : Value} (same : v.width? = w.width?) :
    Registrar.Alike Clause.Alike (Clause.comparison column operator v)
      (Clause.comparison column operator w) := by
  have single : ∀ v : Value, v.width? = none →
      Clause.comparison column operator v = .ok ⟨column ++ " " ++ operator ++ " ?", [v]⟩ := by
    intro v narrow
    cases v with
    | list items => cases narrow
    | _ => rfl
  cases width : v.width? with
  | none =>
    rw [single v width, single w (same.symm.trans width)]
    exact .values ⟨rfl, rfl⟩
  | some n =>
    have listed : ∀ v : Value, v.width? = some n → ∃ items, v = .list items ∧ items.length = n := by
      intro v wide
      cases v with
      | list items => exact ⟨items, rfl, Option.some.inj wide⟩
      | _ => cases wide
    obtain ⟨items, rfl, length⟩ := listed v width
    obtain ⟨others, rfl, length'⟩ := listed w (same.symm.trans width)
    unfold Clause.comparison
    by_cases member : isMembership operator = true
    · simp only [if_pos member, Clause.placeholder, length, length']
      exact .values ⟨rfl, length.trans length'.symm⟩
    · simp only [if_neg member]
      exact .failures _ _

/-- The comparison of a column is determined by its operand's width. -/
theorem ofColumn_alike (column operator : String) {c d : Condition} (same : SameOperand c d) :
    Registrar.Alike Clause.Alike (ofColumn column operator c) (ofColumn column operator d) := by
  cases c with
  | scalar v =>
    cases d with
    | scalar w => exact comparison_alike column operator same
    | map entries => cases same
    | list items => cases same
  | map entries =>
    cases d with
    | scalar w => cases same
    | map others => exact .failures _ _
    | list others => exact .failures _ _
  | list items =>
    cases d with
    | scalar w => cases same
    | map others => exact .failures _ _
    | list others => exact .failures _ _

/-- A condition that gives a name is read as it. -/
theorem name?_of_some {c : Condition} {s : String} (name : c.nameText? = some s) :
    c.name? = .ok s := by
  unfold nameText? at name
  split at name
  · obtain rfl := Option.some.inj name
    rfl
  · cases name

/-- A condition that gives no name is refused as one. -/
theorem name?_of_none {c : Condition} (name : c.nameText? = none) : ∃ f, c.name? = .error f := by
  cases c with
  | scalar v => cases v with
    | text s => cases name
    | _ => exact ⟨_, rfl⟩
  | map entries => exact ⟨_, rfl⟩
  | list items => exact ⟨_, rfl⟩

/-- Conditions that give the same name are read alike. -/
theorem name?_alike {c d : Condition} (same : c.nameText? = d.nameText?) :
    Registrar.Alike Eq c.name? d.name? := by
  cases name : c.nameText? with
  | some s =>
    rw [name?_of_some name, name?_of_some (same ▸ name)]
    exact .values rfl
  | none =>
    obtain ⟨f, first⟩ := name?_of_none name
    obtain ⟨g, second⟩ := name?_of_none (same ▸ name)
    rw [first, second]
    exact .failures f g

end Condition

namespace Clause.Alike

variable {a b c d : Clause}

/-- Alike clauses say something together. -/
theorem isEmpty (alike : Clause.Alike a b) : a.isEmpty = b.isEmpty :=
  congrArg Text.isBlankText alike.1

/-- Alike clauses are alike in parentheses. -/
theorem wrapped (opening : String) (alike : Clause.Alike a b) :
    Clause.Alike (a.wrapped opening) (b.wrapped opening) :=
  ⟨congrArg (fun text => opening ++ "(" ++ text ++ ")") alike.1, alike.2⟩

/-- Alike clauses are left out together. -/
theorem wrappedUnlessEmpty (opening : String) (alike : Clause.Alike a b) :
    List.Forall₂ Clause.Alike (a.wrappedUnlessEmpty opening) (b.wrappedUnlessEmpty opening) := by
  unfold Clause.wrappedUnlessEmpty
  rw [alike.isEmpty]
  split
  · exact .nil
  · exact .cons (alike.wrapped opening) .nil

/-- Alike clauses are alike behind each other. -/
theorem both (conjunction : Conjunction) (first : Clause.Alike a b) (second : Clause.Alike c d) :
    Clause.Alike (a.both conjunction c) (b.both conjunction d) := by
  unfold Clause.both
  rw [first.isEmpty, second.isEmpty]
  split
  · exact second
  · split
    · exact first
    · refine ⟨?_, ?_⟩
      · simp only [Clause.append, first.1, second.1]
      · simp only [Clause.append, List.length_append, first.2, second.2]

/-- Alike clauses are joined alike. -/
theorem join (conjunction : Conjunction) {clauses others : List Clause}
    (alike : List.Forall₂ Clause.Alike clauses others) :
    Clause.Alike (Clause.join conjunction clauses) (Clause.join conjunction others) := by
  induction alike with
  | nil => exact ⟨rfl, rfl⟩
  | cons first _ ih =>
    rw [Clause.join_cons, Clause.join_cons]
    exact first.both conjunction ih

end Clause.Alike

namespace Condition

/-- Clauses of one entry and of those behind it are alike if either are. -/
theorem wrapped_alike (opening : String) {x y : Except Failure Clause}
    {xs ys : Except Failure (List Clause)} (first : Registrar.Alike Clause.Alike x y)
    (others : Registrar.Alike (List.Forall₂ Clause.Alike) xs ys) :
    Registrar.Alike (List.Forall₂ Clause.Alike)
      (x >>= fun clause => xs >>= fun clauses =>
        .ok (clause.wrappedUnlessEmpty opening ++ clauses))
      (y >>= fun clause => ys >>= fun clauses =>
        .ok (clause.wrappedUnlessEmpty opening ++ clauses)) :=
  first.bind fun _ _ alike => others.bind fun _ _ rest =>
    .values (List.rel_append (alike.wrappedUnlessEmpty opening) rest)

/-- A clause before others is alike if all are. -/
theorem cons_alike {x y : Except Failure Clause} {xs ys : Except Failure (List Clause)}
    (first : Registrar.Alike Clause.Alike x y)
    (others : Registrar.Alike (List.Forall₂ Clause.Alike) xs ys) :
    Registrar.Alike (List.Forall₂ Clause.Alike)
      (x >>= fun clause => xs >>= fun clauses => .ok (clause :: clauses))
      (y >>= fun clause => ys >>= fun clauses => .ok (clause :: clauses)) :=
  first.bind fun _ _ alike => others.bind fun _ _ rest => .values (.cons alike rest)

/-- A list without lists that is none of one, two or three is refused. -/
theorem compile_of_length (table : String) (conjunction : Conjunction) {items : List Condition}
    (flat : items.any isList = false) (length : items.length = 0 ∨ 3 < items.length) :
    ∃ f, compile table conjunction (.list items) = .error f := by
  unfold compile
  rw [flat]
  simp only [Bool.false_eq_true, if_false]
  split
  · simp at length
  · simp at length
  · simp at length
  · exact ⟨_, rfl⟩

mutual

/-- Conditions of the same shape are accepted or refused together, with alike clauses. -/
theorem compile_sameShape (table : String) : ∀ (conjunction : Conjunction) (c d : Condition),
    SameShape c d →
    Registrar.Alike Clause.Alike (c.compile table conjunction) (d.compile table conjunction)
  | conjunction, .scalar v, .scalar w, same => ofScalar_alike table same
  | conjunction, .map entries, .map others, same => by
    have alike := compileEntries_sameShape table entries others same
    rw [compile, compile]
    exact alike.bind fun _ _ parts => .values (Clause.Alike.join conjunction parts)
  | conjunction, .list items, .list others, same => by
    unfold SameShape at same
    by_cases lists : items.any isList = true
    · rw [if_pos lists] at same
      unfold compile
      rw [if_pos lists, if_pos same.1]
      have alike := compileItems_sameShape table items others same.2
      exact alike.bind fun _ _ parts => .values (Clause.Alike.join conjunction parts)
    · rw [if_neg lists] at same
      rw [Bool.not_eq_true] at lists
      obtain ⟨flat, same⟩ := same
      split at same
      · next only other =>
        have alike := compile_sameShape table conjunction only other same
        rw [compile, compile, lists, flat]
        exact alike
      · next column value column' value' =>
        rw [compile, compile, lists, flat]
        refine (name?_alike same.1).bind ?_
        rintro name _ rfl
        exact ofColumn_alike name "=" same.2
      · next column operator value column' operator' value' =>
        rw [compile, compile, lists, flat]
        refine (name?_alike same.1).bind ?_
        rintro name _ rfl
        refine (name?_alike same.2.1).bind ?_
        rintro operator _ rfl
        exact ofColumn_alike name operator same.2.2
      · next noSingle noPair noTriple =>
        have outside : items.length = 0 ∨ 3 < items.length := by
          rcases items with _ | ⟨a, _ | ⟨b, _ | ⟨c, _ | ⟨d, rest⟩⟩⟩⟩
          · exact .inl rfl
          · obtain ⟨a', rfl⟩ := List.length_eq_one_iff.1 same.symm
            exact (noSingle a a' rfl rfl).elim
          · obtain ⟨a', b', rfl⟩ := List.length_eq_two.1 same.symm
            exact (noPair a b a' b' rfl rfl).elim
          · obtain ⟨a', b', c', rfl⟩ := List.length_eq_three.1 same.symm
            exact (noTriple a b c a' b' c' rfl rfl).elim
          · exact .inr (by simp)
        obtain ⟨f, refused⟩ := compile_of_length table conjunction lists outside
        obtain ⟨g, refused'⟩ := compile_of_length table conjunction flat (same ▸ outside)
        rw [refused, refused']
        exact .failures f g

/-- Mappings of the same shape are accepted or refused together, with alike clauses. -/
theorem compileEntries_sameShape (table : String) : ∀ (entries others : List (Key × Condition)),
    SameEntries entries others →
    Registrar.Alike (List.Forall₂ Clause.Alike) (compileEntries table entries)
      (compileEntries table others)
  | [], [], _ => .values .nil
  | (key, c) :: entries, (key', d) :: others, same => by
    obtain ⟨rfl, first, rest⟩ := same
    have behind := compileEntries_sameShape table entries others rest
    cases key with
    | group nested => exact wrapped_alike "" (compile_sameShape table nested c d first) behind
    | not => exact wrapped_alike "NOT " (compile_sameShape table .and c d first) behind
    | compare column operator => exact cons_alike (ofColumn_alike column operator first) behind
    | column column => exact cons_alike (ofColumn_alike column "=" first) behind

/-- Lists of lists of the same shape are accepted or refused together, with alike clauses. -/
theorem compileItems_sameShape (table : String) : ∀ (items others : List Condition),
    SameItems items others →
    Registrar.Alike (List.Forall₂ Clause.Alike) (compileItems table items)
      (compileItems table others)
  | [], [], _ => .values .nil
  | c :: items, d :: others, same =>
    cons_alike (compile_sameShape table .and c d same.1)
      (compileItems_sameShape table items others same.2)

end

end Condition

/-- Questions with filters of the same shape are asked by the same text. -/
theorem statement_sameShape (question : Question) {c d : Condition}
    (same : Condition.SameShape c d) :
    Alike Statement.Alike { question with filter := some c }.statement
      { question with filter := some d }.statement := by
  have reflexive : ∀ {α : Type} (x : Except Failure α), Alike Eq x x := fun x =>
    Alike.refl (fun _ => rfl) x
  have clauses : Alike (fun a b : Option Clause => Option.Rel Clause.Alike a b)
      { question with filter := some c }.filterClause
      { question with filter := some d }.filterClause := by
    refine (Condition.compile_sameShape question.table .and c d same).bind ?_
    intro a b alike
    rw [alike.isEmpty]
    split
    · exact .values .none
    · exact .values (.some alike)
  refine (reflexive _).bind ?_
  rintro table _ rfl
  refine (reflexive _).bind ?_
  rintro columns _ rfl
  refine (reflexive _).bind ?_
  rintro joins _ rfl
  refine clauses.bind ?_
  intro clause clause' alike
  refine (reflexive _).bind ?_
  rintro orderBy _ rfl
  cases alike with
  | none => exact .values ⟨rfl, rfl⟩
  | some alike =>
    refine .values ⟨?_, alike.2⟩
    simp only [alike.1]

/-- Changes of the same names by conditions of the same shape are made by the same text. -/
theorem updateStatement_sameShape (table : String) {values others : Entries Value}
    (names : values.names = others.names) {c d : Condition} (same : Condition.SameShape c d) :
    Alike Statement.Alike (Call.updateStatement table values c)
      (Call.updateStatement table others d) := by
  have lengths : values.values.length = others.values.length := by
    have same := congrArg List.length names
    simpa [Entries.names, Entries.values] using same
  have byNames : ∀ entries : Entries Value, entries.isEmpty = entries.names.isEmpty := by
    intro entries
    simp [Entries.isEmpty, Entries.names]
  have empty : values.isEmpty = others.isEmpty := by
    rw [byNames, byNames, names]
  refine (Alike.refl (R := Eq) (fun _ => rfl) (identifier table)).bind ?_
  rintro name _ rfl
  rw [empty]
  split
  · exact .failures _ _
  · refine (Condition.compile_sameShape name .and c d same).bind ?_
    intro a b alike
    rw [alike.isEmpty, names]
    split
    · exact .failures _ _
    · refine (Alike.refl (R := Eq) (fun _ => rfl) (identifiers others.names)).bind ?_
      rintro columns _ rfl
      refine .values ⟨?_, ?_⟩
      · simp only [alike.1]
      · simp only [List.length_append, lengths, alike.2]

/-- Removals by conditions of the same shape are made by the same text. -/
theorem deleteStatement_sameShape (table : String) {c d : Condition}
    (same : Condition.SameShape c d) :
    Alike Statement.Alike (Call.deleteStatement table (some c))
      (Call.deleteStatement table (some d)) := by
  refine (Alike.refl (R := Eq) (fun _ => rfl) (identifier table)).bind ?_
  rintro name _ rfl
  refine (Condition.compile_sameShape name .and c d same).bind ?_
  intro a b alike
  rw [alike.isEmpty]
  split
  · exact .failures _ _
  · refine .values ⟨?_, alike.2⟩
    simp only [alike.1]

/-- Values never get into the text of a statement: conditions of the same shape are accepted or
refused together, their clauses have the same text and as many parameters, and so do the
statements that are built with them. -/
theorem text_of_shape (table : String) {c d : Condition} (same : Condition.SameShape c d) :
    (∀ conjunction, Alike Clause.Alike (c.compile table conjunction)
      (d.compile table conjunction)) ∧
    (∀ question : Question, Alike Statement.Alike { question with filter := some c }.statement
      { question with filter := some d }.statement) ∧
    (∀ values others : Entries Value, values.names = others.names →
      Alike Statement.Alike (Call.updateStatement table values c)
        (Call.updateStatement table others d)) ∧
    Alike Statement.Alike (Call.deleteStatement table (some c))
      (Call.deleteStatement table (some d)) :=
  ⟨fun conjunction => Condition.compile_sameShape table conjunction c d same,
    fun question => statement_sameShape question same,
    fun _ _ names => updateStatement_sameShape table names same,
    deleteStatement_sameShape table same⟩

/-- The filter for a name among the rows of some ids. -/
def namedAmong (name ids : String) : Condition :=
  .map [(.column "name", .scalar (.text name)), (.compare "id" "IN", .scalar (.text ids))]

/-- A name that tries to be a condition of its own is compared like any other. -/
theorem text_of_shape_quoted :
    Condition.SameShape (namedAmong "x" "1,2") (namedAmong "' OR 1=1 --" "a, b") ∧
      Alike Statement.Alike (Call.deleteStatement "users" (some (namedAmong "x" "1,2")))
        (Call.deleteStatement "users" (some (namedAmong "' OR 1=1 --" "a, b"))) := by
  have name : (Value.text "x").coerced.width? = (Value.text "' OR 1=1 --").coerced.width? := by
    decide
  have ids : (Value.text "1,2").coerced.width? = (Value.text "a, b").coerced.width? := by
    decide
  have same : Condition.SameShape (namedAmong "x" "1,2") (namedAmong "' OR 1=1 --" "a, b") :=
    ⟨rfl, name, rfl, ids, trivial⟩
  exact ⟨same, (text_of_shape "users" same).2.2.2⟩

end Registrar
