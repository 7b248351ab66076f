import Registrar.Proofs.Filter.Marks
import Registrar.Proofs.Filter.Weaving
import Registrar.Proofs.Filter.WellFormed

/-!
# Harmless texts

A text is harmless if none of its characters opens a quotation or a comment, or ends a statement.
Identifiers and operators of comparison are harmless, and so is all that the clause of a condition is
woven from around them.
-/

namespace Registrar

open Registrar.Text Registrar.Sql

/-- The characters that quote names and texts. -/
def quotes : List Char :=
  ['\x27', '"', '\x60', '[', ']']

/-- The characters that end a statement or that comments begin with. -/
def stops : List Char :=
  [';', '-', '/']

/-- A text of nothing but characters that neither quote nor stop anything. -/
def Harmless (text : String) : Prop :=
  ∀ c ∈ text.toList, c ∉ quotes ++ stops

instance (text : String) : Decidable (Harmless text) :=
  List.decidableBAll _ text.toList

/-- What all harmful characters are not, the characters of a harmless text may be. -/
theorem not_harmful {p : Char → Bool} (none : ∀ c ∈ quotes ++ stops, p c = false) {c : Char}
    (holds : p c = true) : c ∉ quotes ++ stops := by
  intro harmful
  rw [none c harmful] at holds
  cases holds

namespace Harmless

variable {a b : String}

/-- Harmless texts behind each other are harmless. -/
theorem append (first : Harmless a) (second : Harmless b) : Harmless (a ++ b) := by
  intro c mem
  rw [String.toList_append, List.mem_append] at mem
  exact mem.elim (first c) (second c)

/-- Harmless texts one after another are harmless. -/
theorem join {parts : List String} (all : ∀ part ∈ parts, Harmless part) :
    Harmless (String.join parts) := by
  intro c mem
  rw [String.toList_join, List.mem_flatMap] at mem
  obtain ⟨part, among, mem⟩ := mem
  exact all part among c mem

/-- Harmless texts with a harmless separator between neighbours are harmless. -/
theorem intercalate {separator : String} (between : Harmless separator) {parts : List String}
    (all : ∀ part ∈ parts, Harmless part) : Harmless (separator.intercalate parts) :=
  forall_mem_intercalate between all

/-- Silent texts are harmless. -/
theorem of_silent (silent : Silent a) : Harmless a :=
  fun c mem => not_harmful (p := Token.isSilent) (Token.forall_of_all (by decide)) (silent c mem)

/-- An identifier is harmless. -/
theorem identifier (valid : isIdentifier a = true) : Harmless a :=
  of_silent (.identifier valid)

/-- Marks with commas between them are harmless. -/
theorem marks (n : Nat) : Harmless (Clause.marks n) := by
  refine intercalate (by decide) fun part mem => ?_
  rw [List.eq_of_mem_replicate mem]
  decide

end Harmless

/-- A visible character is in a run. -/
theorem mem_runs_of_visible {cs : List Char} {c : Char} (mem : c ∈ cs) (visible : isBlank c = false) :
    ∃ run ∈ runs cs, c ∈ run := by
  generalize found : runs cs = all
  induction all generalizing cs with
  | nil =>
    rw [blank_of_runs_nil found c mem] at visible
    cases visible
  | cons word others ih =>
    obtain ⟨before, rest, rfl, blanks, -, -, -, behind⟩ := of_runs_cons found
    rcases List.mem_append.1 mem with mem | mem
    · rw [blanks c mem] at visible
      cases visible
    · rcases List.mem_append.1 mem with mem | mem
      · exact ⟨word, List.mem_cons_self, mem⟩
      · obtain ⟨run, among, mem⟩ := ih mem behind
        exact ⟨run, List.mem_cons_of_mem word among, mem⟩

/-- A text whose words are harmless in capitals is harmless. -/
theorem harmless_of_words {text : String} (each : ∀ word ∈ words text, Harmless (upperAscii word)) :
    Harmless text := by
  intro c mem
  by_cases blank : isBlank c = true
  · exact not_harmful (p := isBlank) (Token.forall_of_all (by decide)) blank
  · obtain ⟨run, among, mem⟩ := mem_runs_of_visible mem (Bool.not_eq_true _ ▸ blank)
    have isWord : String.ofList run ∈ words text := List.mem_map_of_mem among
    have capital : upperChar c ∈ (upperAscii (String.ofList run)).toList := by
      rw [toList_upperAscii, String.toList_ofList]
      exact List.mem_map_of_mem mem
    have kept : ∀ d ∈ quotes ++ stops, upperChar d = d := Token.forall_of_all (by decide)
    intro harmful
    rw [kept c harmful] at capital
    exact each _ isWord c capital harmful

/-- An operator of comparison is harmless. -/
theorem harmless_of_ofText? {operator : String} {comparator : Comparator}
    (known : Comparator.ofText? operator = some comparator) : Harmless operator := by
  obtain ⟨-, inTable⟩ := Comparator.of_ofText? known
  have spellings : ∀ entry ∈ Comparator.table, ∀ s ∈ entry.1, Harmless s.2 := by decide
  refine harmless_of_words fun word mem => ?_
  have spelled := List.mem_map_of_mem (f := Comparator.wordSpelling) mem
  rw [upperAscii_eq_wordSpelling inTable spelled]
  exact spellings _ inTable _ spelled

/-- An operator that asks for membership is harmless. -/
theorem harmless_of_isMembership {operator : String} (member : isMembership operator = true) :
    Harmless operator := by
  have known : ∀ word ∈ (words operator).map upperAscii, Harmless word := by
    rcases isMembership_iff_words.1 member with same | same
    · rw [same]
      decide
    · rw [same]
      decide
  exact harmless_of_words fun word mem => known _ (List.mem_map_of_mem mem)

namespace Term

/-- Whether a term compares an identifier by an operator of comparison or membership. -/
def IsNamed : Term → Prop
  | .id _ | .name _ => True
  | .comparison column operator _ => isIdentifier column = true ∧
    ((Comparator.ofText? operator).isSome = true ∨ isMembership operator = true)
  | .fragment _ => False

instance : DecidablePred IsNamed
  | .id _ | .name _ => isTrue trivial
  | .comparison _ _ _ => inferInstanceAs (Decidable (_ ∧ _))
  | .fragment _ => isFalse fun impossible => impossible

/-- The marks of a value are harmless. -/
theorem harmless_placeholder (value : Value) : Harmless (Clause.placeholder value).text := by
  cases value with
  | list items =>
    exact ((show Harmless "(" by decide).append (.marks items.length)).append (by decide)
  | _ => exact (show Harmless "?" by decide)

/-- The clause of a term that compares an identifier is harmless. -/
theorem harmless_clause {table : String} (valid : isIdentifier table = true) {term : Term}
    (named : term.IsNamed) : Harmless (term.clause table).text := by
  have blank : Harmless " " := by decide
  cases term with
  | id n => exact (Harmless.identifier valid).append (by decide)
  | name s => exact (Harmless.identifier valid).append (by decide)
  | comparison column operator value =>
    have known : Harmless operator := by
      rcases named.2 with known | member
      · obtain ⟨comparator, known⟩ := Option.isSome_iff_exists.1 known
        exact harmless_of_ofText? known
      · exact harmless_of_isMembership member
    exact ((((Harmless.identifier named.1).append blank).append known).append blank).append
      (harmless_placeholder value)
  | fragment text => cases named

end Term

/-- The clause of a condition whose terms compare identifiers is harmless. -/
theorem harmless_of_compile {table : String} {conjunction : Conjunction} {condition : Condition}
    {clause : Clause} (valid : isIdentifier table = true)
    (accepted : condition.compile table conjunction = .ok clause)
    (named : ∀ term ∈ condition.terms, term.IsNamed) : Harmless clause.text := by
  obtain ⟨pieces, glued, kept, text⟩ := (keeps_of_compile accepted).woven.text
  rw [text]
  refine .join fun part mem => ?_
  obtain ⟨piece, among, rfl⟩ := List.mem_map.1 mem
  cases piece with
  | glue held =>
    have known : ∀ glue ∈ glues, Harmless glue := by decide
    exact known held (glued held among)
  | term said =>
    have own : said ∈ condition.terms := by
      rw [← kept]
      exact List.mem_filterMap.2 ⟨.term said, among, rfl⟩
    exact said.harmless_clause valid (named said own)

end Registrar
