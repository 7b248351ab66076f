import Registrar.Entries
import Registrar.Value

/-!
# Conditions

A filter as its caller builds it: bare values, mappings and lists, nested at will.  What a
condition means depends on where it stands, so the type only fixes its shape; `Clause` gives it
its text and parameters.
-/

namespace Registrar

/-- How the terms of a condition are joined. -/
inductive Conjunction where
  | and
  | or
deriving DecidableEq

/-- The word for a conjunction in a statement. -/
def Conjunction.word : Conjunction → String
  | .and => "AND"
  | .or => "OR"

/-- The key of one entry of a mapping. -/
inductive Key where
  /-- The column equals the value. -/
  | column (name : String)
  /-- The column compares with the value by the operator. -/
  | compare (name operator : String)
  /-- The terms of the value are joined by the conjunction. -/
  | group (conjunction : Conjunction)
  /-- The value does not hold. -/
  | not
deriving DecidableEq

/-- The key of a name: three names in capitals are no columns. -/
def Key.ofName (name : String) : Key :=
  if name = "AND" then .group .and
  else if name = "OR" then .group .or
  else if name = "NOT" then .not
  else .column name

/-- A filter. -/
inductive Condition where
  | scalar (value : Value)
  | map (entries : List (Key × Condition))
  | list (items : List Condition)

namespace Condition

/-- The mapping of entries put one after another: a repeated key keeps its first place and its
last condition. -/
def ofEntries (entries : List (Key × Condition)) : Condition :=
  .map (putAll [] entries)

/-- Whether a condition is a list. -/
def isList : Condition → Bool
  | .list _ => true
  | _ => false

end Condition

/-- A key as a message shows it. -/
def Key.message : Key → String
  | .column name => "Column(" ++ Text.quoted name ++ ")"
  | .compare name operator =>
    "Compare(" ++ Text.quoted name ++ ", " ++ Text.quoted operator ++ ")"
  | .group .and => "Group(And)"
  | .group .or => "Group(Or)"
  | .not => "Not"

namespace Condition

mutual

/-- A condition as a message shows it. -/
def message : Condition → String
  | .scalar value => "Scalar(" ++ value.message ++ ")"
  | .map entries => "Map(\x7b" ++ Value.joined ", " (messageEntries entries) ++ "\x7d)"
  | .list items => "List([" ++ Value.joined ", " (messageItems items) ++ "])"

/-- The entries of a mapping as a message shows them. -/
def messageEntries : List (Key × Condition) → List String
  | [] => []
  | (key, condition) :: entries =>
    (key.message ++ ": " ++ message condition) :: messageEntries entries

/-- The items of a list as a message shows them. -/
def messageItems : List Condition → List String
  | [] => []
  | item :: items => message item :: messageItems items

end

end Condition

end Registrar
