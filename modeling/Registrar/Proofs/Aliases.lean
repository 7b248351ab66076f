import Mathlib.Data.List.Pairwise
import Registrar.Proofs.Statements

/-!
# The names of joined tables

A joined table goes under its own name with its running number behind, and nothing stands between
the two.  The numbers of a question's joins are all different, and still two joined tables go under
one name when the name of the earlier ends in the digits that the number of the later begins with.
This is the only way: tables whose names do not end in a digit never collide, nor does a table with
itself, however often it is joined.
-/

namespace Registrar

open Registrar.Number
open Registrar.Text (isDigit)

/-- The last character of a name is a digit. -/
def EndsInDigit (name : String) : Prop :=
  ∃ c ∈ name.toList.getLast?, isDigit c = true

/-- What ends in one or more digits ends in a digit. -/
theorem endsInDigit_append {name digits : String} (some : digits ≠ "")
    (all : ∀ c ∈ digits.toList, isDigit c = true) : EndsInDigit (name ++ digits) := by
  have nonempty : digits.toList ≠ [] := fun none => some (String.toList_eq_nil_iff.1 none)
  refine ⟨digits.toList.getLast nonempty, ?_, all _ (List.getLast_mem nonempty)⟩
  rw [String.toList_append, List.getLast?_append, List.getLast?_eq_some_getLast nonempty]
  rfl

namespace JoinClause

variable {first second clause : JoinClause}

/-- The earlier of two joined tables is called like the later with digits behind, and the number of
the later is these digits with the number of the earlier behind. -/
def Echoes (first second : JoinClause) : Prop :=
  ∃ digits, digits ≠ "" ∧ first.table = second.table ++ digits ∧
    intText second.number = digits ++ intText first.number

/-- Two joined tables go under one name exactly when the earlier echoes the later. -/
theorem alias_eq_iff (earlier : first.number < second.number) :
    first.alias = second.alias ↔ first.Echoes second := by
  constructor
  · intro same
    have parts : first.table.toList ++ natDigits first.number =
        second.table.toList ++ natDigits second.number := by
      rw [← toList_intText, ← toList_intText, ← String.toList_append, ← String.toList_append]
      exact congrArg String.toList same
    have shorter := length_natDigits_le (Nat.le_of_lt earlier)
    have different : natDigits first.number ≠ natDigits second.number := fun equal =>
      Nat.ne_of_lt earlier (natDigits_inj.1 equal)
    rcases List.append_eq_append_iff.1 parts with ⟨digits, name, number⟩ | ⟨digits, name, number⟩
    · -- the earlier number would be the longer one
      have lengths := congrArg List.length number
      rw [List.length_append] at lengths
      have empty : digits = [] := List.eq_nil_of_length_eq_zero (by omega)
      exact absurd (by rw [number, empty, List.nil_append]) different
    · refine ⟨String.ofList digits, ?_, ?_, ?_⟩
      · intro empty
        have none : digits = [] := by simpa using congrArg String.toList empty
        exact different (by rw [number, none, List.nil_append])
      · exact String.toList_injective (by rw [String.toList_append, String.toList_ofList, name])
      · exact String.toList_injective
          (by rw [String.toList_append, String.toList_ofList, toList_intText, toList_intText, number])
  · rintro ⟨digits, -, name, number⟩
    rw [JoinClause.alias, JoinClause.alias, name, number, String.append_assoc]

/-- A joined table echoes none of its own name. -/
theorem Echoes.table_ne (echoes : first.Echoes second) : first.table ≠ second.table := by
  obtain ⟨digits, some, name, -⟩ := echoes
  intro same
  have lengths := congrArg String.length (same.symm.trans name)
  rw [String.length_append] at lengths
  exact some (String.length_eq_zero_iff.1 (by omega))

/-- A joined table that echoes another is called by a name that ends in a digit. -/
theorem Echoes.endsInDigit (echoes : first.Echoes second) : EndsInDigit first.table := by
  obtain ⟨digits, some, name, number⟩ := echoes
  rw [name]
  refine endsInDigit_append some fun c mem => isDigit_of_mem_natDigits (n := second.number) ?_
  rw [← toList_intText, number, String.toList_append]
  exact List.mem_append_left _ mem

/-- A joined table echoes only one whose number has more digits. -/
theorem Echoes.ten_le (echoes : first.Echoes second) : 10 ≤ second.number := by
  obtain ⟨digits, some, -, number⟩ := echoes
  refine Nat.le_of_not_lt fun small => ?_
  have single : (natDigits second.number).length ≤ 1 :=
    (Nat.length_toDigits_le_iff (by decide) (by decide)).2 small
  have front : 0 < digits.toList.length :=
    List.length_pos_iff.2 fun none => some (String.toList_eq_nil_iff.1 none)
  have back : 0 < (natDigits first.number).length := Nat.length_toDigits_pos
  have lengths := congrArg List.length (congrArg String.toList number)
  rw [String.toList_append, List.length_append, toList_intText, toList_intText] at lengths
  omega

/-- The name that a joined table goes under ends in a digit. -/
theorem endsInDigit_alias (clause : JoinClause) : EndsInDigit clause.alias := by
  have positive : 0 < (natDigits clause.number).length := Nat.length_toDigits_pos
  refine endsInDigit_append (fun empty => ?_) fun c mem => ?_
  · rw [← toList_intText, empty] at positive
    exact Nat.lt_irrefl 0 positive
  · exact isDigit_of_mem_natDigits (by rwa [← toList_intText])

end JoinClause

namespace Joins

variable {joins after : Joins}

/-- The names that the joined tables go under, in the order of the joins. -/
def aliases (joins : Joins) : List String :=
  joins.clauses.map JoinClause.alias

/-- The joins are numbered from the first on. -/
def Counted (joins : Joins) : Prop :=
  joins.clauses.map JoinClause.number = List.range joins.size

namespace Counted

/-- No joins are numbered. -/
theorem start (source : String) : (Joins.start source).Counted := rfl

/-- The numbers run on over all joins of a question. -/
theorem addAll (counted : joins.Counted) {added : List Join}
    (accepted : joins.addAll added = .ok after) : after.Counted := by
  obtain ⟨-, rfl⟩ := addAll_eq_ok_iff.1 accepted
  have size : (joins.extend (added.flatMap Join.pairs)).size =
      joins.size + (added.flatMap Join.pairs).length := rfl
  rw [Counted, size, extend, List.map_append, counted, JoinClause.map_number_numbered,
    List.range_eq_range', List.range_eq_range', ← List.range'_append_1, Nat.zero_add]
  rfl

/-- Every join has a greater number than the ones before it. -/
theorem ascending (counted : joins.Counted) :
    joins.clauses.Pairwise fun first second => first.number < second.number := by
  have numbers := List.pairwise_lt_range (n := joins.size)
  rwa [← counted, List.pairwise_map] at numbers

/-- Joins have numbers below the number of joins. -/
theorem number_lt (counted : joins.Counted) {clause : JoinClause} (mem : clause ∈ joins.clauses) :
    clause.number < joins.size :=
  List.mem_range.1 (counted ▸ List.mem_map_of_mem mem)

/-- The joined tables go under different names exactly when none echoes a later one. -/
theorem nodup_aliases_iff (counted : joins.Counted) :
    joins.aliases.Nodup ↔ ∀ first ∈ joins.clauses, ∀ second ∈ joins.clauses,
      first.number < second.number → ¬first.Echoes second := by
  rw [aliases, List.Nodup, List.pairwise_map]
  constructor
  · intro apart first mem second among earlier echoes
    have different : first ≠ second := fun same => Nat.ne_of_lt earlier (by rw [same])
    have symmetric : Std.Symm fun first second : JoinClause => first.alias ≠ second.alias :=
      ⟨fun _ _ ne => ne.symm⟩
    exact apart.forall mem among different ((JoinClause.alias_eq_iff earlier).2 echoes)
  · intro separate
    refine counted.ascending.imp_of_mem fun {first second} mem among earlier same => ?_
    exact separate first mem second among earlier ((JoinClause.alias_eq_iff earlier).1 same)

end Counted

/-- The names of the joined tables keep apart, from each other and from the table that a question
starts from. -/
def KeptApart (joins : Joins) : Prop :=
  joins.aliases.Nodup ∧ joins.source ∉ joins.aliases

/-- Accepted joins keep the table that they start from. -/
theorem source_addAll {added : List Join} (accepted : joins.addAll added = .ok after) :
    after.source = joins.source := by
  obtain ⟨-, rfl⟩ := addAll_eq_ok_iff.1 accepted
  rfl

end Joins

/-- The names of joined tables keep apart exactly when no joined table echoes a later one and the
first table is not called like a joined one with its number.  So they do whenever no joined table
and not the first one has a name that ends in a digit; one table joined more than once never
collides with itself, and up to ten joined tables never collide with each other. -/
theorem aliases_keep_apart_iff {source : String} {added : List Join} {joins : Joins}
    (accepted : (Joins.start source).addAll added = .ok joins) :
    (joins.KeptApart ↔
      (∀ first ∈ joins.clauses, ∀ second ∈ joins.clauses, first.number < second.number →
        ¬first.Echoes second) ∧
      ∀ clause ∈ joins.clauses, source ≠ clause.table ++ intText clause.number) ∧
    ((∀ clause ∈ joins.clauses, ¬EndsInDigit clause.table) → ¬EndsInDigit source →
      joins.KeptApart) ∧
    (∀ table, ((joins.clauses.filter (·.table = table)).map JoinClause.alias).Nodup) ∧
    (joins.size ≤ 10 → joins.aliases.Nodup) := by
  have counted : joins.Counted := (Joins.Counted.start source).addAll accepted
  have begins : joins.source = source := Joins.source_addAll accepted
  have beside : source ∉ joins.aliases ↔
      ∀ clause ∈ joins.clauses, source ≠ clause.table ++ intText clause.number := by
    rw [Joins.aliases, List.mem_map, not_exists]
    exact ⟨fun none clause mem same => none clause ⟨mem, same.symm⟩,
      fun all clause ⟨mem, same⟩ => all clause mem same.symm⟩
  refine ⟨?_, ?_, ?_, ?_⟩
  · rw [Joins.KeptApart, begins, counted.nodup_aliases_iff, beside]
  · intro plain first
    refine ⟨counted.nodup_aliases_iff.2 fun clause mem _ _ _ echoes =>
      plain clause mem echoes.endsInDigit, ?_⟩
    intro mem
    obtain ⟨clause, -, same⟩ := List.mem_map.1 mem
    rw [begins] at same
    exact first (same ▸ clause.endsInDigit_alias)
  · intro table
    rw [List.Nodup, List.pairwise_map]
    refine (counted.ascending.filter _).imp_of_mem fun {first second} mem among earlier same => ?_
    have one : first.table = table := by simpa using (List.mem_filter.1 mem).2
    have two : second.table = table := by simpa using (List.mem_filter.1 among).2
    exact ((JoinClause.alias_eq_iff earlier).1 same).table_ne (one.trans two.symm)
  · intro few
    refine counted.nodup_aliases_iff.2 fun first _ second among _ echoes => ?_
    have bound := counted.number_lt among
    have wide := echoes.ten_le
    omega

/-- A table that is called like a joined one with its number goes under the same name as that. -/
theorem aliases_keep_apart_iff_authors :
    (Joins.start "authors0").addAll [.on (.ofList [("authors", "author_id")])] =
      .ok ⟨"authors0", 1, [⟨"authors", 0, "author_id"⟩]⟩ ∧
    ¬(⟨"authors0", 1, [⟨"authors", 0, "author_id"⟩]⟩ : Joins).KeptApart := by
  have accepted : (Joins.start "authors0").addAll [.on (.ofList [("authors", "author_id")])] =
      .ok ⟨"authors0", 1, [⟨"authors", 0, "author_id"⟩]⟩ := rfl
  refine ⟨accepted, fun apart => ?_⟩
  obtain ⟨-, beside⟩ := (aliases_keep_apart_iff accepted).1.1 apart
  exact beside ⟨"authors", 0, "author_id"⟩ (List.mem_singleton_self _) (by decide +kernel)

end Registrar
