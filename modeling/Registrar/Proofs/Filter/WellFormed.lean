import Mathlib.Data.List.TakeWhile
import Registrar.Proofs.Binding
import Registrar.Proofs.Filter.Membership
import Registrar.Proofs.Sql.Comparator

/-!
# Well-formed conditions

Which conditions have a clause, told without compiling them.  `Condition.WellFormed` is a judgment on
the tree alone: a list is read as a list of conditions as soon as one of its items is a list, and what a
column is compared with is a scalar that is coerced to a list only where the operator takes one.  The
operators that take a list are a parameter of the judgment.  They turn out to be `IN` and `NOT IN` in
letters of any case, with any blanks between the words and around them.
-/

namespace Registrar

open Registrar.Text Registrar.Sql

section Runs

variable {c : Char} {cs word : List Char}

/-- The maximal runs of some characters that hold no blank. -/
def runs (cs : List Char) : List (List Char) :=
  (splitWhere isBlank cs).filter fun piece => !piece.isEmpty

/-- A blank in front changes no run. -/
theorem runs_cons_of_blank (blank : isBlank c = true) : runs (c :: cs) = runs cs := by
  simp [runs, splitWhere, blank]

/-- Blanks in front change no run. -/
theorem runs_append_of_blanks {blanks : List Char} (all : ∀ c ∈ blanks, isBlank c = true)
    (cs : List Char) : runs (blanks ++ cs) = runs cs := by
  induction blanks with
  | nil => rfl
  | cons c blanks ih =>
    rw [List.cons_append, runs_cons_of_blank (all c List.mem_cons_self)]
    exact ih fun d mem => all d (List.mem_cons_of_mem c mem)

/-- A word in front of a blank, or at the end, is the first run. -/
theorem runs_append_of_word (present : word ≠ []) (whole : ∀ c ∈ word, isBlank c = false)
    (begins : ∀ c ∈ cs.head?, isBlank c = true) : runs (word ++ cs) = word :: runs cs := by
  cases cs with
  | nil => simp [runs, splitWhere_eq_splitOnP, List.splitOnP_eq_singleton whole, present]
  | cons c cs =>
    have blank : isBlank c = true := begins c rfl
    rw [runs_cons_of_blank blank, runs, runs, splitWhere_eq_splitOnP,
      List.splitOnP_append_cons_of_forall_mem whole c blank, ← splitWhere_eq_splitOnP]
    simp [present]

/-- Behind a visible character the first run goes on to the next blank. -/
theorem runs_cons_of_visible (visible : isBlank c = false) (cs : List Char) :
    ∃ word rest, c :: cs = word ++ rest ∧ word ≠ [] ∧ (∀ d ∈ word, isBlank d = false) ∧
      (∀ d ∈ rest.head?, isBlank d = true) ∧ runs (c :: cs) = word :: runs rest := by
  have split := (List.takeWhile_append_dropWhile : (c :: cs).takeWhile (fun d => !isBlank d) ++
    (c :: cs).dropWhile (fun d => !isBlank d) = c :: cs)
  have present : (c :: cs).takeWhile (fun d => !isBlank d) ≠ [] := by simp [visible]
  have whole : ∀ d ∈ (c :: cs).takeWhile (fun d => !isBlank d), isBlank d = false :=
    fun d mem => by simpa using List.mem_takeWhile_imp mem
  have begins : ∀ d ∈ ((c :: cs).dropWhile (fun d => !isBlank d)).head?, isBlank d = true := by
    intro d mem
    have stopped := List.head?_dropWhile_not (fun d => !isBlank d) (c :: cs)
    rw [Option.mem_def.1 mem] at stopped
    simpa using stopped
  refine ⟨_, _, split.symm, present, whole, begins, ?_⟩
  rw [← runs_append_of_word present whole begins, split]

/-- Characters without a run are blank. -/
theorem blank_of_runs_nil (none : runs cs = []) : ∀ c ∈ cs, isBlank c = true := by
  induction cs with
  | nil => exact nofun
  | cons c cs ih =>
    by_cases blank : isBlank c = true
    · rw [runs_cons_of_blank blank] at none
      exact List.forall_mem_cons.2 ⟨blank, ih none⟩
    · obtain ⟨word, rest, -, -, -, -, first⟩ := runs_cons_of_visible (Bool.not_eq_true _ ▸ blank) cs
      rw [none] at first
      cases first

/-- The first run is a word behind blanks, and the others are those of what stands behind it. -/
theorem of_runs_cons {others : List (List Char)} (found : runs cs = word :: others) :
    ∃ before rest, cs = before ++ (word ++ rest) ∧ (∀ c ∈ before, isBlank c = true) ∧ word ≠ [] ∧
      (∀ c ∈ word, isBlank c = false) ∧ (∀ c ∈ rest.head?, isBlank c = true) ∧
      runs rest = others := by
  induction cs with
  | nil => cases found
  | cons c cs ih =>
    by_cases blank : isBlank c = true
    · rw [runs_cons_of_blank blank] at found
      obtain ⟨before, rest, rfl, blanks, others⟩ := ih found
      exact ⟨c :: before, rest, rfl, List.forall_mem_cons.2 ⟨blank, blanks⟩, others⟩
    · obtain ⟨first, rest, split, present, whole, begins, runs⟩ :=
        runs_cons_of_visible (Bool.not_eq_true _ ▸ blank) cs
      rw [found] at runs
      obtain ⟨rfl, rfl⟩ := List.cons.inj runs
      exact ⟨[], rest, split, nofun, present, whole, begins, rfl⟩

/-- The words of a text are its runs. -/
theorem words_eq_runs (s : String) : words s = (runs s.toList).map String.ofList :=
  rfl

end Runs

section Operators

/-- Characters that ask for membership: `IN`, or `NOT` and `IN` with blanks between them, in letters
of any case. -/
inductive AsksMembership : List Char → Prop where
  | member {word} : word.map upperChar = "IN".toList → AsksMembership word
  | notMember {first blanks second} : first.map upperChar = "NOT".toList → blanks ≠ [] →
      (∀ c ∈ blanks, isBlank c = true) → second.map upperChar = "IN".toList →
      AsksMembership (first ++ blanks ++ second)

/-- Characters that ask for membership are two letters, or six characters at least. -/
theorem AsksMembership.length {cs : List Char} (asks : AsksMembership cs) :
    cs.length = 2 ∨ 6 ≤ cs.length := by
  have size {word capitals : List Char} (same : word.map upperChar = capitals) :
      word.length = capitals.length := by
    rw [← same, List.length_map]
  cases asks with
  | member capitals => exact .inl (size capitals)
  | notMember negation some _ capitals =>
    have first := size negation
    have second := size capitals
    have between := List.length_pos_iff.2 some
    simp only [List.length_append, first, second]
    exact .inr (Nat.add_le_add (Nat.add_le_add_left between 3) (Nat.le_refl 2))

/-- An operator takes a list if it asks for membership between any blanks. -/
def TakesList (operator : String) : Prop :=
  ∃ before asking after, operator.toList = before ++ asking ++ after ∧
    (∀ c ∈ before, isBlank c = true) ∧ (∀ c ∈ after, isBlank c = true) ∧ AsksMembership asking

/-- A word whose capitals are visible is visible. -/
theorem visible_of_capitals {word capitals : List Char} (same : word.map upperChar = capitals)
    (visible : ∀ c ∈ capitals, isBlank c = false) : ∀ c ∈ word, isBlank c = false := by
  intro c mem
  rw [← isBlank_upperChar]
  exact visible (upperChar c) (same ▸ List.mem_map_of_mem mem)

/-- The runs of some characters hold no blank. -/
theorem visible_of_mem_runs {cs run : List Char} (mem : run ∈ runs cs) :
    ∀ c ∈ run, isBlank c = false := by
  generalize found : runs cs = all at mem
  induction all generalizing cs with
  | nil => cases mem
  | cons word others ih =>
    obtain ⟨before, rest, -, -, -, whole, -, behind⟩ := of_runs_cons found
    rcases List.mem_cons.1 mem with rfl | mem
    · exact whole
    · exact ih behind mem

/-- Joining is undone by cutting, so texts without the separator are joined alike only if they are the
same. -/
theorem intercalate_inj {separator : Char} {texts parts : List String} (some : texts ≠ [])
    (whole : ∀ text ∈ texts, separator ∉ text.toList) (present : parts ≠ [])
    (uncut : ∀ part ∈ parts, separator ∉ part.toList) :
    (String.singleton separator).intercalate texts = (String.singleton separator).intercalate parts ↔
      texts = parts := by
  refine ⟨fun same => ?_, fun same => same ▸ rfl⟩
  have cut := splitWhere_intercalate some whole
  rw [same, splitWhere_intercalate present uncut] at cut
  exact ((List.map_inj_right fun _ _ => String.toList_inj.1).1 cut).symm

/-- An operator asks for membership if its words in capitals are `IN`, or `NOT` and `IN`. -/
theorem isMembership_iff_words {operator : String} : isMembership operator = true ↔
    (words operator).map upperAscii = ["IN"] ∨ (words operator).map upperAscii = ["NOT", "IN"] := by
  have blank : upperAscii " " = String.singleton ' ' := by decide
  have whole : ∀ piece ∈ (words operator).map upperAscii, ' ' ∉ piece.toList := by
    intro piece mem among
    obtain ⟨word, isWord, rfl⟩ := List.mem_map.1 mem
    obtain ⟨run, isRun, rfl⟩ := List.mem_map.1 isWord
    rw [toList_upperAscii, String.toList_ofList] at among
    obtain ⟨c, inRun, isSpace⟩ := List.mem_map.1 among
    have shown := visible_of_mem_runs isRun c inRun
    rw [← isBlank_upperChar, isSpace] at shown
    cases shown
  simp only [isMembership, upperAscii_intercalate, blank, Bool.or_eq_true, beq_iff_eq]
  generalize (words operator).map upperAscii = texts at whole
  cases texts with
  | nil => decide
  | cons text texts =>
    have some := List.cons_ne_nil text texts
    have one := intercalate_inj some whole (List.cons_ne_nil "IN" []) (by decide)
    have two := intercalate_inj some whole (List.cons_ne_nil "NOT" ["IN"]) (by decide)
    rw [← one, ← two]
    exact Iff.rfl

/-- The words of an operator in capitals are its runs in capitals. -/
theorem upperAscii_words_eq_iff {operator : String} {capitals : List String} :
    (words operator).map upperAscii = capitals ↔
      (runs operator.toList).map (List.map upperChar) = capitals.map String.toList := by
  have texts : ((words operator).map upperAscii).map String.toList =
      (runs operator.toList).map (List.map upperChar) := by
    simp [words_eq_runs, Function.comp_def]
  rw [← texts, List.map_inj_right fun _ _ => String.toList_inj.1]

/-- The words that ask for membership are visible. -/
theorem visible_of_asking {word : List Char}
    (same : word.map upperChar = "IN".toList ∨ word.map upperChar = "NOT".toList) :
    word ≠ [] ∧ ∀ c ∈ word, isBlank c = false := by
  refine ⟨?_, ?_⟩
  · rintro rfl
    rcases same with same | same <;> cases same
  · rcases same with same | same
    · exact visible_of_capitals same (by simp [isBlank])
    · exact visible_of_capitals same (by simp [isBlank])

/-- Characters that ask for membership, between blanks, have the words that ask for it. -/
theorem AsksMembership.runs_map {asking : List Char} (asks : AsksMembership asking)
    {before after : List Char} (front : ∀ c ∈ before, isBlank c = true)
    (behind : ∀ c ∈ after, isBlank c = true) :
    (runs (before ++ asking ++ after)).map (List.map upperChar) = ["IN".toList] ∨
      (runs (before ++ asking ++ after)).map (List.map upperChar) = ["NOT".toList, "IN".toList] := by
  have none : runs after = [] := by simpa [runs, splitWhere] using runs_append_of_blanks behind []
  have ends : ∀ c ∈ after.head?, isBlank c = true := fun c mem => behind c (List.mem_of_head? mem)
  cases asks with
  | member capitals =>
    obtain ⟨present, whole⟩ := visible_of_asking (.inl capitals)
    rw [List.append_assoc, runs_append_of_blanks front, runs_append_of_word present whole ends, none]
    exact .inl (congrArg (fun word => [word]) capitals)
  | @notMember first blanks second negation some between capitals =>
    obtain ⟨present, whole⟩ := visible_of_asking (.inr negation)
    obtain ⟨present', whole'⟩ := visible_of_asking (.inl capitals)
    have begins : ∀ c ∈ (blanks ++ (second ++ after)).head?, isBlank c = true := by
      obtain ⟨c, cs, rfl⟩ := List.exists_cons_of_ne_nil some
      rintro _ ⟨⟩
      exact between c List.mem_cons_self
    rw [List.append_assoc, runs_append_of_blanks front, List.append_assoc, List.append_assoc,
      runs_append_of_word present whole begins, runs_append_of_blanks between,
      runs_append_of_word present' whole' ends, none, List.map_cons, List.map_singleton, negation,
      capitals]
    exact .inr rfl

/-- The operators that ask for membership are those that take a list. -/
theorem isMembership_iff {operator : String} : isMembership operator = true ↔ TakesList operator := by
  rw [isMembership_iff_words, upperAscii_words_eq_iff, upperAscii_words_eq_iff]
  constructor
  · rintro (same | same)
    · obtain ⟨word, found, capitals⟩ := List.map_eq_singleton_iff.1 same
      obtain ⟨before, rest, split, front, -, -, -, none⟩ := of_runs_cons found
      exact ⟨before, word, rest, by rw [split, List.append_assoc], front, blank_of_runs_nil none,
        .member capitals⟩
    · obtain ⟨first, others, found, negation, capitals⟩ := List.map_eq_cons_iff.1 same
      obtain ⟨second, only, capitals⟩ := List.map_eq_singleton_iff.1 capitals
      obtain ⟨before, rest, split, front, -, -, begins, behind⟩ := of_runs_cons found
      obtain ⟨blanks, after, rfl, between, present, whole, -, none⟩ := of_runs_cons (behind.trans only)
      have some : blanks ≠ [] := by
        rintro rfl
        obtain ⟨c, cs, rfl⟩ := List.exists_cons_of_ne_nil present
        have visible := whole c List.mem_cons_self
        rw [begins c rfl] at visible
        cases visible
      exact ⟨before, first ++ blanks ++ second, after, by simp [split], front, blank_of_runs_nil none,
        .notMember negation some between capitals⟩
  · rintro ⟨before, asking, after, split, front, behind, asks⟩
    rw [split]
    exact asks.runs_map front behind

end Operators

namespace Condition

/-- A scalar that a column may be compared with by an operator: what it is coerced to is a list only if
the operator takes one. -/
inductive Operand (takesList : String → Prop) (operator : String) : Condition → Prop where
  | scalar {value} : (value.coerced.isList = true → takesList operator) →
      Operand takesList operator (.scalar value)

mutual

/-- A condition that makes sense, for certain operators that take lists. -/
inductive WellFormed (takesList : String → Prop) : Condition → Prop where
  | integer (n) : WellFormed takesList (.scalar (.integer n))
  | text (s) : WellFormed takesList (.scalar (.text s))
  | map {entries} : (∀ entry ∈ entries, WellFormedEntry takesList entry.1 entry.2) →
      WellFormed takesList (.map entries)
  | lists {items} : (∃ item ∈ items, item.isList = true) →
      (∀ item ∈ items, WellFormed takesList item) → WellFormed takesList (.list items)
  | only {item} : item.isList = false → WellFormed takesList item →
      WellFormed takesList (.list [item])
  | equation {column operand} : Operand takesList "=" operand →
      WellFormed takesList (.list [.scalar (.text column), operand])
  | comparison {column operator operand} : Operand takesList operator operand →
      WellFormed takesList (.list [.scalar (.text column), .scalar (.text operator), operand])

/-- An entry of a mapping that makes sense, for certain operators that take lists. -/
inductive WellFormedEntry (takesList : String → Prop) : Key → Condition → Prop where
  | group {conjunction condition} : WellFormed takesList condition →
      WellFormedEntry takesList (.group conjunction) condition
  | not {condition} : WellFormed takesList condition → WellFormedEntry takesList .not condition
  | column {name operand} : Operand takesList "=" operand →
      WellFormedEntry takesList (.column name) operand
  | compare {name operator operand} : Operand takesList operator operand →
      WellFormedEntry takesList (.compare name operator) operand

end

section Accepting

variable {table : String} {conjunction : Conjunction}

/-- A value suits an operator if it is a list only where the operator takes one. -/
theorem suits_iff {operator : String} {value : Value} :
    value.Suits operator ↔ (value.isList = true → TakesList operator) := by
  cases value with
  | list items => simp [Value.Suits, Value.isList, isMembership_iff]
  | _ => simp [Value.Suits, Value.isList]

/-- A comparison is accepted exactly if it is with an operand of its operator. -/
theorem ofColumn_iff {column operator : String} {condition : Condition} :
    (∃ clause, ofColumn column operator condition = .ok clause) ↔
      Operand TakesList operator condition := by
  constructor
  · rintro ⟨clause, accepted⟩
    obtain ⟨value, rfl, suits, -⟩ := of_ofColumn "" accepted
    exact .scalar (suits_iff.1 suits)
  · rintro ⟨takes⟩
    rename_i value
    have suits : value.coerced.Suits operator := suits_iff.2 takes
    simp only [ofColumn, scalar?, bind, Except.bind]
    cases coerced : value.coerced with
    | list items =>
      rw [coerced] at suits
      exact ⟨_, if_pos suits⟩
    | _ => exact ⟨_, rfl⟩

/-- A bare value of one term is a whole number or a text. -/
theorem wellFormed_of_bareTerms {takesList : String → Prop} {value : Value} {term : Term}
    (bare : bareTerms value = [term]) : WellFormed takesList (.scalar value) := by
  cases value with
  | integer n => exact .integer n
  | text s => exact .text s
  | _ => cases bare

/-- An entry that nests makes sense if its condition does. -/
theorem wellFormedEntry_of_nesting? {takesList : String → Prop} {key : Key} {inner : Conjunction}
    {opening : String} {condition : Condition} (nests : key.nesting? = some (inner, opening))
    (whole : WellFormed takesList condition) : WellFormedEntry takesList key condition := by
  cases key with
  | group conjunction => exact .group whole
  | not => exact .not whole
  | compare name operator => cases nests
  | column name => cases nests

/-- An entry that compares makes sense if it is with an operand of its operator. -/
theorem wellFormedEntry_of_comparison? {takesList : String → Prop} {key : Key}
    {column operator : String} {condition : Condition}
    (compares : key.comparison? = some (column, operator))
    (operand : Operand takesList operator condition) : WellFormedEntry takesList key condition := by
  cases key with
  | group conjunction => cases compares
  | not => cases compares
  | compare name other =>
    obtain ⟨rfl, rfl⟩ := Prod.mk.inj (Option.some.inj compares)
    exact .compare operand
  | column name =>
    obtain ⟨rfl, rfl⟩ := Prod.mk.inj (Option.some.inj compares)
    exact .column operand

/-- A flat list that compares makes sense if it is with an operand of its operator. -/
theorem wellFormed_of_comparison? {takesList : String → Prop} {items : List Condition}
    {column operator : String} {condition : Condition}
    (compares : comparison? items = some (column, operator, condition))
    (operand : Operand takesList operator condition) : WellFormed takesList (.list items) := by
  unfold comparison? at compares
  split at compares
  · obtain ⟨rfl, rfl, rfl⟩ := by simpa using compares
    exact .equation operand
  · obtain ⟨rfl, rfl, rfl⟩ := by simpa using compares
    exact .comparison operand
  · cases compares

/-- Making sense carries over from the parts of a condition. -/
theorem compositional_wellFormed (table : String) :
    Compositional table (fun _ condition _ => WellFormed TakesList condition)
      (fun _ entries _ => ∀ entry ∈ entries, WellFormedEntry TakesList entry.1 entry.2)
      (fun _ items _ => ∀ item ∈ items, WellFormed TakesList item) where
  bare _ _ _ bare := wellFormed_of_bareTerms bare
  map _ _ _ each := .map each
  lists _ _ _ lists each := .lists (by simpa using lists) each
  only _ _ _ flat whole := .only flat whole
  comparison _ _ _ _ _ _ compares suits :=
    wellFormed_of_comparison? compares (.scalar (suits_iff.1 suits))
  noEntries _ := nofun
  nested _ _ _ _ _ _ _ _ nests whole others :=
    List.forall_mem_cons.2 ⟨wellFormedEntry_of_nesting? nests whole, others⟩
  compared _ _ _ _ _ _ _ compares suits others :=
    List.forall_mem_cons.2
      ⟨wellFormedEntry_of_comparison? compares (.scalar (suits_iff.1 suits)), others⟩
  noItems _ := nofun
  item _ _ _ _ _ whole others := List.forall_mem_cons.2 ⟨whole, others⟩

/-- A bare value that makes sense is accepted. -/
theorem ofScalar_of_wellFormed {takesList : String → Prop} {value : Value}
    (whole : WellFormed takesList (.scalar value)) : ∃ clause, ofScalar table value = .ok clause := by
  cases whole with
  | integer n => exact ⟨_, rfl⟩
  | text s =>
    rw [ofScalar]
    split
    · exact ⟨_, rfl⟩
    · split <;> exact ⟨_, rfl⟩

/-- A flat list that compares is accepted if the comparison is. -/
theorem compile_of_comparison {items : List Condition} {column operator : String}
    {condition : Condition} {clause : Clause} (flat : items.any isList = false)
    (compares : comparison? items = some (column, operator, condition))
    (accepted : ofColumn column operator condition = .ok clause) :
    compile table conjunction (.list items) = .ok clause := by
  unfold comparison? at compares
  split at compares
  · obtain ⟨rfl, rfl, rfl⟩ := by simpa using compares
    rw [compile, flat]
    exact accepted
  · obtain ⟨rfl, rfl, rfl⟩ := by simpa using compares
    rw [compile, flat]
    exact accepted
  · cases compares

mutual

/-- A condition that makes sense is accepted. -/
theorem compile_of_wellFormed (table : String) : ∀ (conjunction : Conjunction) (condition : Condition),
    WellFormed TakesList condition → ∃ clause, condition.compile table conjunction = .ok clause
  | _, .scalar value, whole => by
    rw [compile]
    exact ofScalar_of_wellFormed whole
  | conjunction, .map entries, .map each => by
    obtain ⟨parts, compiled⟩ := compileEntries_of_wellFormed table entries each
    exact ⟨Clause.join conjunction parts, by rw [compile, compiled]; rfl⟩
  | conjunction, .list items, .lists listed each => by
    obtain ⟨parts, compiled⟩ := compileItems_of_wellFormed table items each
    have lists : items.any isList = true := by simpa using listed
    exact ⟨Clause.join conjunction parts, by unfold compile; rw [if_pos lists, compiled]; rfl⟩
  | conjunction, .list [item], .only flat whole => by
    obtain ⟨clause, compiled⟩ := compile_of_wellFormed table conjunction item whole
    exact ⟨clause, by simpa [compile, flat] using compiled⟩
  | conjunction, .list [.scalar (.text _), operand], .equation isOperand => by
    obtain ⟨clause, accepted⟩ := ofColumn_iff.2 isOperand
    obtain ⟨_⟩ := isOperand
    exact ⟨clause, compile_of_comparison rfl rfl accepted⟩
  | conjunction, .list [.scalar (.text _), .scalar (.text _), operand], .comparison isOperand => by
    obtain ⟨clause, accepted⟩ := ofColumn_iff.2 isOperand
    obtain ⟨_⟩ := isOperand
    exact ⟨clause, compile_of_comparison rfl rfl accepted⟩

/-- The entries of a mapping are accepted if they make sense. -/
theorem compileEntries_of_wellFormed (table : String) : ∀ entries : List (Key × Condition),
    (∀ entry ∈ entries, WellFormedEntry TakesList entry.1 entry.2) →
      ∃ clauses, compileEntries table entries = .ok clauses
  | [], _ => ⟨[], rfl⟩
  | (key, condition) :: entries, each => by
    obtain ⟨rest, behind⟩ := compileEntries_of_wellFormed table entries
      fun entry mem => each entry (List.mem_cons_of_mem _ mem)
    match key, each _ List.mem_cons_self with
    | .group nested, .group whole =>
      obtain ⟨clause, compiled⟩ := compile_of_wellFormed table nested condition whole
      exact ⟨_, by rw [compileEntries, compiled, behind]; rfl⟩
    | .not, .not whole =>
      obtain ⟨clause, compiled⟩ := compile_of_wellFormed table .and condition whole
      exact ⟨_, by rw [compileEntries, compiled, behind]; rfl⟩
    | .column name, .column operand =>
      obtain ⟨clause, compiled⟩ := ofColumn_iff.2 operand
      exact ⟨_, by rw [compileEntries, compiled, behind]; rfl⟩
    | .compare name operator, .compare operand =>
      obtain ⟨clause, compiled⟩ := ofColumn_iff.2 operand
      exact ⟨_, by rw [compileEntries, compiled, behind]; rfl⟩

/-- The items of a list of lists are accepted if they make sense. -/
theorem compileItems_of_wellFormed (table : String) : ∀ items : List Condition,
    (∀ item ∈ items, WellFormed TakesList item) → ∃ clauses, compileItems table items = .ok clauses
  | [], _ => ⟨[], rfl⟩
  | item :: items, each => by
    obtain ⟨clause, compiled⟩ :=
      compile_of_wellFormed table .and item (each item List.mem_cons_self)
    obtain ⟨rest, behind⟩ := compileItems_of_wellFormed table items
      fun other mem => each other (List.mem_cons_of_mem _ mem)
    exact ⟨clause :: rest, by rw [compileItems, compiled, behind]; rfl⟩

end

/-- A condition is accepted exactly if it makes sense, where the operators that take a list are `IN` and
`NOT IN` in letters of any case with any blanks between their words and around them.  What is not
accepted is refused as not valid, and neither the table nor the conjunction has a say in it. -/
theorem accepted_iff_wellFormed (table : String) (conjunction : Conjunction) (condition : Condition) :
    ((∃ clause, condition.compile table conjunction = .ok clause) ↔ WellFormed TakesList condition) ∧
      (∀ failure, condition.compile table conjunction = .error failure →
        failure.kind = .validation) ∧
      ∀ (other : String) (joining : Conjunction),
        (∃ clause, condition.compile table conjunction = .ok clause) ↔
          ∃ clause, condition.compile other joining = .ok clause := by
  have exact (table : String) (conjunction : Conjunction) :
      (∃ clause, condition.compile table conjunction = .ok clause) ↔ WellFormed TakesList condition :=
    ⟨fun ⟨_, accepted⟩ => (compositional_wellFormed table).compile conjunction condition accepted,
      compile_of_wellFormed table conjunction condition⟩
  refine ⟨exact table conjunction, ?_, fun other joining => ?_⟩
  · intro failure refused
    obtain ⟨rejection, rfl⟩ := Rejects.compile table conjunction condition failure refused
    rfl
  · exact (exact table conjunction).trans (exact other joining).symm

/-- Without the blanks around the words of an operator, a list behind ` IN` would make no sense, but it is
accepted. -/
theorem accepted_with_blank_in_front :
    ¬ ∀ (table : String) (conjunction : Conjunction) (condition : Condition),
      (∃ clause, condition.compile table conjunction = .ok clause) ↔
        WellFormed (fun operator => AsksMembership operator.toList) condition := by
  intro every
  have takes : TakesList " IN" :=
    ⟨[' '], "IN".toList, [], rfl, List.forall_mem_singleton.2 rfl, nofun, .member (by decide)⟩
  have listed : (Value.text "8, 9").coerced.isList = true := by
    rw [coerced_of_comma (by decide)]
    rfl
  have accepted := compile_of_wellFormed "ships" .and
    (.map [(.compare "crew" " IN", .scalar (.text "8, 9"))])
    (.map (List.forall_mem_singleton.2 (.compare (.scalar fun _ => takes))))
  cases (every _ _ _).1 accepted with
  | map each =>
    cases each _ List.mem_cons_self with
    | compare operand =>
      cases operand with
      | scalar asks =>
        have size := (asks listed).length
        revert size
        decide

end Accepting

end Condition

end Registrar
