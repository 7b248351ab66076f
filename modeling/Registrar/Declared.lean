import Registrar.Value

/-!
# Declared types

A store keeps numbers, text and bytes only.  A cell of a column that was declared as a boolean, a
date or a timestamp becomes such a value when it is read; a cell that does not read as one stays as
it is.
-/

namespace Registrar

open Registrar.Text Registrar.Calendar

/-- The declared types whose cells are converted. -/
inductive DeclaredType where
  | boolean
  | date
  | timestamp
deriving DecidableEq

namespace DeclaredType

/-- The type that a declaration names; case and anything from a parenthesis on do not count. -/
def ofName? (declared : String) : Option DeclaredType :=
  let name := String.ofList (trimChars (declared.toList.takeWhile (· != '(')))
  match upperAscii name with
  | "BOOLEAN" | "BOOL" => some .boolean
  | "DATE" => some .date
  | "TIMESTAMP" | "DATETIME" => some .timestamp
  | _ => none

/-- The boolean that a word stands for. -/
def boolean? (s : String) : Option Bool :=
  match lowerAscii (trim s) with
  | "1" | "true" | "t" | "yes" => some true
  | "0" | "false" | "f" | "no" => some false
  | _ => none

/-- The value of the type that a stored value stands for, if it stands for one. -/
def read? (type : DeclaredType) (value : Value) : Option Value :=
  match type, value with
  | .boolean, .integer n => some (.boolean (n != 0))
  | .boolean, .text s => (boolean? s).map .boolean
  | .date, .text s => (readDate? (trimChars s.toList)).map .date
  | .timestamp, .text s => (readTimestamp? (trimChars s.toList)).map .timestamp
  | .timestamp, .integer n => (Timestamp.ofSeconds? n.toInt).map .timestamp
  | _, _ => none

/-- Converts a stored value. -/
def convert (type : DeclaredType) (value : Value) : Value :=
  (type.read? value).getD value

end DeclaredType

/-- Converts a stored value as the declaration of its column says. -/
def Value.declaredAs (value : Value) (declared : Option String) : Value :=
  match declared.bind DeclaredType.ofName? with
  | some type => type.convert value
  | none => value

end Registrar
