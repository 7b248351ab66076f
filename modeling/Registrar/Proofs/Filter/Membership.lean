import Registrar.Proofs.Filter.Terms

/-!
# Membership in a list that is given as text

A test of membership is given its list as a text with commas.  Cutting a text at the commas undoes
joining pieces with commas, so the test asks for exactly the pieces, each with a mark of its own in
parentheses.  A text without a comma is no list: one element alone is coerced as it is, and its mark
stands without parentheses.
-/

namespace Registrar

open Registrar.Text

section Cutting

/-- Cutting undoes joining pieces that have no cut themselves. -/
theorem splitWhere_intercalate {separator : Char} {pieces : List String} (some : pieces ≠ [])
    (whole : ∀ piece ∈ pieces, separator ∉ piece.toList) :
    splitWhere (· == separator) ((String.singleton separator).intercalate pieces).toList =
      pieces.map String.toList := by
  have joined : ((String.singleton separator).intercalate pieces).toList =
      [separator].intercalate (pieces.map String.toList) := by simp
  rw [splitWhere_eq_splitOnP, joined]
  refine List.splitOn_intercalate separator ?_ (by simpa using some)
  intro piece mem
  obtain ⟨text, among, rfl⟩ := List.mem_map.1 mem
  exact whole text among

end Cutting

section Coercing

/-- Dropping the blanks at both ends leaves characters of the text. -/
theorem mem_of_mem_trimChars {cs : List Char} {c : Char} (mem : c ∈ trimChars cs) : c ∈ cs := by
  have kept : c ∈ (trimStart cs).reverse :=
    (List.dropWhile_sublist isBlank).subset (List.mem_reverse.1 mem)
  exact (List.dropWhile_sublist isBlank).subset (List.mem_reverse.1 kept)

/-- A character that is not in a text is not in it when the blanks around it are dropped. -/
theorem not_mem_trim {c : Char} {s : String} (absent : c ∉ s.toList) : c ∉ (trim s).toList := by
  rw [trim, String.toList_ofList]
  exact fun among => absent (mem_of_mem_trimChars among)

/-- Text without a comma is coerced as a single value. -/
theorem coerced_of_no_comma {s : String} (whole : ',' ∉ s.toList) :
    (Value.text s).coerced = Coercer.single s :=
  Coercer.coerceText_of_uncut whole

/-- Text with a comma is coerced to the list of its pieces. -/
theorem coerced_of_comma {s : String} (cut : ',' ∈ s.toList) :
    (Value.text s).coerced = .list ((splitWhere (· == ',') s.toList).map fun piece =>
      Coercer.single (String.ofList (trimChars piece))) :=
  Coercer.coerceText_of_cut cut

/-- The values of elements that are given as one text: two or more are coerced one by one, without
the blanks around them, and one alone is coerced as it is. -/
def memberValues : List String → List Value
  | [element] => [(Value.text element).coerced]
  | elements => elements.map fun element => (Value.text (trim element)).coerced

/-- There is a value for every element. -/
theorem length_memberValues (elements : List String) :
    (memberValues elements).length = elements.length := by
  unfold memberValues
  split
  · rfl
  · exact List.length_map _

/-- Text without the separator is coerced as a single value when the blanks around it are dropped. -/
theorem Coercer.coerce_trim {c : Coercer} {s : String} (whole : c.separator ∉ s.toList) :
    c.coerce (.text (trim s)) = single (String.ofList (trimChars s.toList)) :=
  coerceText_of_uncut (not_mem_trim whole)

/-- Two or more elements that are given as one text are coerced to the list of their values. -/
theorem coerced_intercalate {first second : String} {others : List String}
    (whole : ∀ element ∈ first :: second :: others, ',' ∉ element.toList) :
    (Value.text (",".intercalate (first :: second :: others))).coerced =
      .list (memberValues (first :: second :: others)) := by
  have cut : ',' ∈ (",".intercalate (first :: second :: others)).toList := by
    rw [String.intercalate_cons_cons]
    simp
  have comma : String.singleton ',' = "," := by simp
  have pieces : splitWhere (· == ',') (",".intercalate (first :: second :: others)).toList =
      (first :: second :: others).map String.toList := by
    rw [← comma]
    exact splitWhere_intercalate (List.cons_ne_nil first _) whole
  have each : (first :: second :: others).map (fun element =>
      Coercer.single (String.ofList (trimChars element.toList))) =
        memberValues (first :: second :: others) :=
    List.map_congr_left fun element mem => (Coercer.coerce_trim (whole element mem)).symm
  rw [coerced_of_comma cut, pieces, List.map_map, ← each]
  simp only [Function.comp_def]

end Coercing

section Testing

/-- The conditions that a column is a member of a list that is given as a text: a mapping of one
entry, and a list of three. -/
def Condition.memberships (column operator s : String) : List Condition :=
  [.map [(.compare column operator, .scalar (.text s))],
    .list [.scalar (.text column), .scalar (.text operator), .scalar (.text s)]]

variable {table column operator : String} {condition : Condition} {clause : Clause}

/-- A test of membership is compiled to the comparison of its column. -/
theorem compile_memberships {s : String} (conjunction : Conjunction)
    (mem : condition ∈ Condition.memberships column operator s)
    (accepted : Clause.comparison column operator (Value.text s).coerced = .ok clause)
    (speaks : clause.isEmpty = false) : condition.compile table conjunction = .ok clause := by
  rcases List.mem_cons.1 mem with rfl | mem
  · simp only [Condition.compile, Condition.compileEntries, Condition.ofColumn, Condition.scalar?,
      accepted, bind, Except.bind, Clause.join_cons, Clause.join_nil]
    rw [Clause.both, speaks]
    rfl
  · obtain rfl := List.mem_singleton.1 mem
    exact accepted

/-- A value without a comma stands behind the operator as one mark. -/
theorem comparison_of_no_comma {s : String} (whole : ',' ∉ s.toList) :
    Clause.comparison column operator (Value.text s).coerced =
      .ok ⟨column ++ " " ++ operator ++ " ?", [(Value.text s).coerced]⟩ := by
  rw [coerced_of_no_comma whole]
  rcases Coercer.single_cases s with ⟨n, same⟩ | ⟨x, same⟩ | same <;> rw [same] <;> rfl

/-- A list behind an operator of membership has its marks in parentheses. -/
theorem comparison_of_list {items : List Value} {n : Nat} (asks : isMembership operator = true)
    (size : items.length = n) :
    Clause.comparison column operator (.list items) =
      .ok ⟨column ++ " " ++ operator ++ " (" ++ Clause.marks n ++ ")", items⟩ := by
  rw [Clause.comparison, if_pos asks, Clause.placeholder, size]
  refine congrArg (fun text => Except.ok (Clause.mk text items)) ?_
  apply String.toList_inj.1
  simp

/-- A list of marks in parentheses differs from a mark without them. -/
theorem listed_ne_bare (a : String) (n : Nat) : a ++ " (" ++ Clause.marks n ++ ")" ≠ a ++ " ?" := by
  intro same
  have chars := congrArg String.toList same
  simp only [String.toList_append, List.append_assoc, List.append_cancel_left_eq] at chars
  have second : (" (".toList ++ ((Clause.marks n).toList ++ ")".toList))[1]? = " ?".toList[1]? := by
    rw [chars]
  cases second

/-- A test of membership in a list that is given as the text of one or more elements is accepted, with
the values of the elements in their order.  It has a mark for each element in parentheses exactly if
there are two or more; the mark of one element alone stands without parentheses. -/
theorem members_are_listed_iff {elements : List String} (conjunction : Conjunction)
    (asks : isMembership operator = true) (some : elements ≠ [])
    (whole : ∀ element ∈ elements, ',' ∉ element.toList)
    (mem : condition ∈ Condition.memberships column operator (",".intercalate elements)) :
    ∃ clause, condition.compile table conjunction = .ok clause ∧
      clause.parameters = memberValues elements ∧
      clause.parameters.length = elements.length ∧
      (clause.text = column ++ " " ++ operator ++ " (" ++ Clause.marks elements.length ++ ")" ↔
        2 ≤ elements.length) ∧
      (elements.length = 1 → clause.text = column ++ " " ++ operator ++ " ?") := by
  match elements with
  | [] => exact absurd rfl some
  | [element] =>
    have text : ",".intercalate [element] = element := String.intercalate_singleton
    rw [text] at mem
    have accepted : Clause.comparison column operator (Value.text element).coerced =
        .ok ⟨column ++ " " ++ operator ++ " ?", [(Value.text element).coerced]⟩ :=
      comparison_of_no_comma (whole element List.mem_cons_self)
    have speaks : Clause.isEmpty ⟨column ++ " " ++ operator ++ " ?", [(Value.text element).coerced]⟩ =
        false := Clause.isBlankText_append_of_right _ (by decide)
    refine ⟨_, compile_memberships conjunction mem accepted speaks, rfl, rfl, ?_, fun _ => rfl⟩
    have bare := listed_ne_bare (column ++ " " ++ operator) 1
    exact ⟨fun listed => absurd listed.symm bare, fun two => absurd two (by simp)⟩
  | first :: second :: others =>
    have accepted : Clause.comparison column operator
        (Value.text (",".intercalate (first :: second :: others))).coerced =
          .ok ⟨column ++ " " ++ operator ++ " (" ++ Clause.marks (others.length + 2) ++ ")",
            memberValues (first :: second :: others)⟩ := by
      rw [coerced_intercalate whole]
      exact comparison_of_list asks (length_memberValues (first :: second :: others))
    have speaks : Clause.isEmpty
        ⟨column ++ " " ++ operator ++ " (" ++ Clause.marks (others.length + 2) ++ ")",
          memberValues (first :: second :: others)⟩ = false :=
      Clause.isBlankText_append_of_right _ (by decide)
    refine ⟨_, compile_memberships conjunction mem accepted speaks, rfl,
      length_memberValues (first :: second :: others), ⟨fun _ => by simp, fun _ => rfl⟩,
      fun one => ?_⟩
    simp at one

/-- Crews of `8` or `worf` are asked for with a mark for each in parentheses, but a crew of `8` alone
with a mark that stands by itself. -/
theorem members_are_listed_crew :
    isMembership "not in" = true ∧ ["8", " worf"] ≠ [] ∧ ["8"] ≠ [] ∧
      (∀ element ∈ ["8", " worf"], ',' ∉ element.toList) ∧ (∀ element ∈ ["8"], ',' ∉ element.toList) ∧
      (∃ clause, (Condition.map [(.compare "crew" "not in", .scalar (.text "8, worf"))]).compile
          "ships" .and = .ok clause ∧
        clause.parameters = [.integer 8, .text "worf"] ∧ clause.text = "crew not in (?, ?)") ∧
      ∃ clause, (Condition.map [(.compare "crew" "not in", .scalar (.text "8"))]).compile
          "ships" .and = .ok clause ∧
        clause.parameters = [.integer 8] ∧ clause.text = "crew not in ?" ∧
        clause.text ≠ "crew not in (?)" := by
  have asks : isMembership "not in" = true := by decide +kernel
  have whole : ∀ element ∈ ["8", " worf"], ',' ∉ element.toList := by decide
  have alone : ∀ element ∈ ["8"], ',' ∉ element.toList := by decide
  refine ⟨asks, List.cons_ne_nil _ _, List.cons_ne_nil _ _, whole, alone, ?_, ?_⟩
  · obtain ⟨clause, accepted, values, -, listed, -⟩ := @members_are_listed_iff "ships" "crew" _ _ _
      .and asks (List.cons_ne_nil _ _) whole List.mem_cons_self
    exact ⟨clause, accepted, values.trans (by decide), listed.2 (by decide)⟩
  · obtain ⟨clause, accepted, values, -, listed, bare⟩ := @members_are_listed_iff "ships" "crew" _ _ _
      .and asks (List.cons_ne_nil _ _) alone List.mem_cons_self
    exact ⟨clause, accepted, values.trans (by decide), bare rfl,
      fun same => absurd (listed.1 same) (by decide)⟩

end Testing

end Registrar
