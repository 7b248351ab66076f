import Registrar.Coercion
import Registrar.Failure

/-!
# Clauses

The text of a condition with a mark for every value, and the values that the marks stand for, from
left to right.  Columns, operators and ready-made text are taken as they are; every other value
becomes a parameter.
-/

namespace Registrar

open Registrar.Text Registrar.Number

/-- A condition in a statement. -/
structure Clause where
  text : String
  parameters : List Value

/-- Whether some characters hold a word of two letters with a blank on either side. -/
def holdsWord (first second : Char) : List Char → Bool
  | a :: b :: c :: d :: rest =>
    (isBlank a && b == first && c == second && isBlank d) ||
      holdsWord first second (b :: c :: d :: rest)
  | _ => false

/-- Whether a text compares something, and so is a condition already: it holds one of the signs of
equality and order, or one of the words `IS` and `IN`. -/
def hasComparator (s : String) : Bool :=
  s.toList.any (fun c => c == '=' || c == '<' || c == '>') ||
    holdsWord 'I' 'S' s.toList || holdsWord 'I' 'N' s.toList

/-- Whether an operator asks for membership. -/
def isMembership (operator : String) : Bool :=
  let spelling := upperAscii (" ".intercalate (words operator))
  spelling == "IN" || spelling == "NOT IN"

namespace Clause

/-- A clause without text. -/
def empty : Clause :=
  ⟨"", []⟩

/-- Ready-made text. -/
def raw (text : String) : Clause :=
  ⟨text, []⟩

/-- Whether a clause says nothing. -/
def isEmpty (clause : Clause) : Bool :=
  isBlankText clause.text

/-- A mark for each of some values. -/
def marks (n : Nat) : String :=
  ", ".intercalate (List.replicate n "?")

/-- The marks of a value: one, or one in parentheses for each item of a list. -/
def placeholder : Value → Clause
  | .list items => ⟨"(" ++ marks items.length ++ ")", items⟩
  | value => ⟨"?", [value]⟩

/-- The comparison of a column with a value; only membership takes a list. -/
def comparison (column operator : String) (value : Value) : Except Failure Clause :=
  match value with
  | .list items =>
    if isMembership operator then
      .ok ⟨column ++ " " ++ operator ++ " " ++ (placeholder (.list items)).text, items⟩
    else .error (.rejected (.listOperand operator column items.length))
  | value => .ok ⟨column ++ " " ++ operator ++ " ?", [value]⟩

/-- One clause behind another. -/
def append (word : String) (a b : Clause) : Clause :=
  ⟨a.text ++ " " ++ word ++ " " ++ b.text, a.parameters ++ b.parameters⟩

/-- Joins clauses that say something. -/
def joinAll (conjunction : Conjunction) : List Clause → Clause
  | [] => empty
  | [clause] => clause
  | clause :: clauses => append conjunction.word clause (joinAll conjunction clauses)

/-- Joins clauses, those that say nothing left out. -/
def join (conjunction : Conjunction) (clauses : List Clause) : Clause :=
  joinAll conjunction (clauses.filter fun clause => !clause.isEmpty)

/-- A clause in parentheses. -/
def wrapped (opening : String) (clause : Clause) : Clause :=
  ⟨opening ++ "(" ++ clause.text ++ ")", clause.parameters⟩

/-- A clause in parentheses, unless it says nothing. -/
def wrappedUnlessEmpty (opening : String) (clause : Clause) : List Clause :=
  if clause.isEmpty then [] else [clause.wrapped opening]

end Clause

namespace Condition

/-- The value of a scalar. -/
def scalar? (column : String) : Condition → Except Failure Value
  | .scalar value => .ok value
  | .map _ | .list _ => .error (.rejected (.nestedValue column))

/-- The name that a text scalar gives. -/
def name? : Condition → Except Failure String
  | .scalar (.text s) => .ok s
  | found => .error (.rejected (.noName found))

/-- The clause of a bare value: a whole number asks for the id of a row of the table, text that
compares something is taken as it is, and other text asks for the name of a row. -/
def ofScalar (table : String) : Value → Except Failure Clause
  | .integer n => .ok ⟨table ++ "_id = ?", [.integer n]⟩
  | .text s =>
    match integerText? s with
    | some n => .ok ⟨table ++ "_id = ?", [.integer n]⟩
    | none =>
      if hasComparator s then .ok (Clause.raw s) else .ok ⟨table ++ "_val = ?", [.text s]⟩
  | value => .error (.rejected (.bareValue value))

/-- The comparison of a column with the value of a condition. -/
def ofColumn (column operator : String) (condition : Condition) : Except Failure Clause := do
  let value ← condition.scalar? column
  Clause.comparison column operator value.coerced

mutual

/-- The clause of a condition whose terms are joined by a conjunction. -/
def compile (table : String) (conjunction : Conjunction) : Condition → Except Failure Clause
  | .scalar value => ofScalar table value
  | .map entries => do
    let parts ← compileEntries table entries
    .ok (Clause.join conjunction parts)
  | .list items =>
    if items.any isList then do
      let parts ← compileItems table items
      .ok (Clause.join conjunction parts)
    else
      match items with
      | [only] => compile table conjunction only
      | [column, value] => do
        let column ← column.name?
        ofColumn column "=" value
      | [column, operator, value] => do
        let column ← column.name?
        let operator ← operator.name?
        ofColumn column operator value
      | items => .error (.rejected (.listLength items.length))

/-- The clauses of the entries of a mapping; groups that say nothing are left out. -/
def compileEntries (table : String) : List (Key × Condition) → Except Failure (List Clause)
  | [] => .ok []
  | (.group nested, condition) :: entries => do
    let clause ← compile table nested condition
    let clauses ← compileEntries table entries
    .ok (clause.wrappedUnlessEmpty "" ++ clauses)
  | (.not, condition) :: entries => do
    let clause ← compile table .and condition
    let clauses ← compileEntries table entries
    .ok (clause.wrappedUnlessEmpty "NOT " ++ clauses)
  | (.compare column operator, condition) :: entries => do
    let clause ← ofColumn column operator condition
    let clauses ← compileEntries table entries
    .ok (clause :: clauses)
  | (.column column, condition) :: entries => do
    let clause ← ofColumn column "=" condition
    let clauses ← compileEntries table entries
    .ok (clause :: clauses)

/-- The clauses of the items of a list of lists. -/
def compileItems (table : String) : List Condition → Except Failure (List Clause)
  | [] => .ok []
  | item :: items => do
    let clause ← compile table .and item
    let clauses ← compileItems table items
    .ok (clause :: clauses)

end

/-- The clause of a filter. -/
def clause (table : String) (condition : Condition) : Except Failure Clause :=
  condition.compile table .and

end Condition

end Registrar
