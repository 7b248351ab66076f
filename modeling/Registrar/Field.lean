import Registrar.Value

/-!
# Kinds of fields

The kinds of value that a field of a record takes, and how a value of another kind becomes one of
them.  Reading keeps a value of the right kind as it is.
-/

namespace Registrar

open Registrar.Text Registrar.Number

/-- What a field of a record holds. -/
inductive FieldKind where
  | integer
  | real
  | text
  | boolean
  | date
  | timestamp
  /-- Any value. -/
  | any
deriving DecidableEq

namespace FieldKind

/-- The word for a kind. -/
def word : FieldKind → String
  | .integer => "integer"
  | .real => "real"
  | .text => "text"
  | .boolean => "boolean"
  | .date => "date"
  | .timestamp => "timestamp"
  | .any => "value"

/-- The value of a kind that a value stands for, if it stands for one. -/
def read? (kind : FieldKind) (value : Value) : Option Value :=
  match kind, value with
  | .integer, .integer n => some (.integer n)
  | .integer, .text s => (integerText? s).map .integer
  | .real, .real x => some (.real x)
  | .real, .integer n => some (.real (Double.ofInt n.toInt))
  | .text, .text s => some (.text s)
  | .text, .integer n => some (.text (Value.integer n).display)
  | .text, .real x => some (.text (Value.real x).display)
  | .boolean, .boolean b => some (.boolean b)
  | .boolean, .integer n => some (.boolean (n != 0))
  | .date, .date d => some (.date d)
  | .date, .timestamp t => some (.date t.date)
  | .timestamp, .timestamp t => some (.timestamp t)
  | .any, value => some value
  | _, _ => none

/-- Reading a second time changes nothing. -/
theorem read?_read? (kind : FieldKind) {value read : Value} (h : kind.read? value = some read) :
    kind.read? read = some read := by
  cases kind <;> cases value <;> simp_all [read?] <;>
    (try (obtain ⟨n, _, rfl⟩ := h)) <;> simp

end FieldKind

end Registrar
