import Registrar.Binding
import Registrar.Proofs.Calendar

/-!
# Values written back

A cell that is read under a declared type and then bound again, as a value of its own, is read as the
same value under this type.  What a type makes of a cell is a boolean, a date or a timestamp; each is
bound as a whole number or as its text, which the type reads as the same value again.  What a type
leaves as it is it leaves again.  Only a real that is no number is lost, since it is bound as nothing.
-/

namespace Registrar

open Registrar.Sql (Cell)
open Registrar.Text Registrar.Number Registrar.Calendar

/-- The value that is read of what a value is bound as; a list is not bound. -/
def Value.bound? (value : Value) : Option Value :=
  value.cell?.map Value.ofCell

/-- Whether a value is bound and then read as itself under a declaration. -/
def Value.ReadsBack (declared : Option String) (value : Value) : Prop :=
  ∃ bound, value.bound? = some bound ∧ bound.declaredAs declared = value

namespace DeclaredType

variable {type : DeclaredType} {value made : Value}

/-- The values that a declared type stands for. -/
inductive Holds : DeclaredType → Value → Prop
  | boolean (b : Bool) : Holds .boolean (.boolean b)
  | date (d : Date) : Holds .date (.date d)
  | timestamp (t : Timestamp) : Holds .timestamp (.timestamp t)

/-- What a type makes of a value is one of its own values. -/
theorem holds_of_read? (read : type.read? value = some made) : type.Holds made := by
  unfold read? at read
  split at read
  · obtain rfl := Option.some.inj read
    exact .boolean _
  · obtain ⟨b, -, rfl⟩ := Option.map_eq_some_iff.1 read
    exact .boolean b
  · obtain ⟨d, -, rfl⟩ := Option.map_eq_some_iff.1 read
    exact .date d
  · obtain ⟨t, -, rfl⟩ := Option.map_eq_some_iff.1 read
    exact .timestamp t
  · obtain ⟨t, -, rfl⟩ := Option.map_eq_some_iff.1 read
    exact .timestamp t
  · cases read

/-- A value of a type is bound as something that the type reads as the value. -/
theorem Holds.reads_bound (holds : type.Holds value) :
    ∃ bound, value.bound? = some bound ∧ type.read? bound = some value := by
  cases holds with
  | boolean b =>
    refine ⟨.integer (if b then 1 else 0), rfl, ?_⟩
    cases b <;> rfl
  | date d =>
    refine ⟨.text d.text, rfl, ?_⟩
    show (readDate? (trimChars d.text.toList)).map Value.date = _
    rw [readDate?_text]
    rfl
  | timestamp t =>
    refine ⟨.text t.text, rfl, ?_⟩
    show (readTimestamp? (trimChars t.text.toList)).map Value.timestamp = _
    rw [readTimestamp?_text]
    rfl

/-- A value of a type reads back under every declaration that names the type. -/
theorem Holds.readsBack (holds : type.Holds value) {declared : String}
    (named : ofName? declared = some type) : value.ReadsBack (some declared) := by
  obtain ⟨bound, binds, read⟩ := holds.reads_bound
  refine ⟨bound, binds, ?_⟩
  rw [Value.declaredAs, Option.bind_some, named]
  show type.convert bound = value
  rw [convert, read, Option.getD_some]

/-- A type makes nothing of a real. -/
theorem read?_real (type : DeclaredType) (x : Double) : type.read? (.real x) = none := by
  cases type <;> rfl

/-- A type makes nothing of what is missing. -/
theorem read?_null (type : DeclaredType) : type.read? .null = none := by
  cases type <;> rfl

end DeclaredType

namespace Value

/-- Reals and what is missing are the same under every declaration. -/
theorem declaredAs_of_unread {value : Value} (unread : ∀ type : DeclaredType, type.read? value = none)
    (declared : Option String) : value.declaredAs declared = value := by
  unfold Value.declaredAs
  split
  · next type _ =>
    rw [DeclaredType.convert, unread type]
    rfl
  · rfl

/-- The value of a cell is bound as itself, unless it is a real that is no number. -/
theorem bound?_ofCell {cell : Cell} (number : ∀ x, cell = .real x → x.isNan = false) :
    (ofCell cell).bound? = some (ofCell cell) := by
  cases cell with
  | real x =>
    show some (ofCell (Cell.ofReal x)) = _
    rw [Cell.ofReal, number x rfl]
    rfl
  | _ => rfl

/-- A cell that is read under a declaration reads back, unless it is a real that is no number. -/
theorem readsBack_declaredAs {cell : Cell} (number : ∀ x, cell = .real x → x.isNan = false)
    (declared : Option String) : ((ofCell cell).declaredAs declared).ReadsBack declared := by
  have unchanged (same : (ofCell cell).declaredAs declared = ofCell cell) :
      ((ofCell cell).declaredAs declared).ReadsBack declared := by
    rw [same]
    exact ⟨ofCell cell, bound?_ofCell number, same⟩
  cases given : declared.bind DeclaredType.ofName? with
  | none =>
    refine unchanged ?_
    rw [declaredAs, given]
  | some type =>
    obtain ⟨word, rfl, named⟩ := Option.bind_eq_some_iff.1 given
    have converted : (ofCell cell).declaredAs (some word) = type.convert (ofCell cell) := by
      rw [declaredAs, given]
    cases read : type.read? (ofCell cell) with
    | none =>
      refine unchanged ?_
      rw [converted, DeclaredType.convert, read]
      rfl
    | some made =>
      have same : (ofCell cell).declaredAs (some word) = made := by
        rw [converted, DeclaredType.convert, read]
        rfl
      rw [same]
      exact (DeclaredType.holds_of_read? read).readsBack named

/-- A real that is no number is bound as nothing, and so does not read back. -/
theorem not_readsBack_nan {x : Double} (nan : x.isNan = true) (declared : Option String) :
    ¬ ((Value.real x).declaredAs declared).ReadsBack declared := by
  rintro ⟨bound, binds, same⟩
  have kept : (Value.real x).declaredAs declared = .real x :=
    declaredAs_of_unread (fun type => type.read?_real x) declared
  have missing : (Value.real x).bound? = some .null := by
    show some (ofCell (Cell.ofReal x)) = _
    rw [Cell.ofReal, nan]
    rfl
  rw [kept, missing] at binds
  obtain rfl := Option.some.inj binds
  rw [kept, declaredAs_of_unread DeclaredType.read?_null declared] at same
  cases same

end Value

end Registrar
