import Registrar.Failure

/-!
# Identifiers

Names of tables and columns that may stand in a statement as they are: an ASCII letter or an
underscore, then letters, digits and underscores.
-/

namespace Registrar

open Registrar.Text

/-- A character that may start an identifier. -/
def startsIdentifier (c : Char) : Bool :=
  isLetter c || c == '_'

/-- Whether some characters make up an identifier. -/
def isIdentifierChars : List Char → Bool
  | [] => false
  | c :: cs => startsIdentifier c && cs.all fun c => startsIdentifier c || isDigit c

/-- Whether a name is an identifier. -/
def isIdentifier (name : String) : Bool :=
  isIdentifierChars name.toList

/-- Refuses a name that is no identifier. -/
def identifier (name : String) : Except Failure String :=
  if isIdentifier name then .ok name else .error (.rejected (.identifier name))

/-- Refuses names of which one is no identifier; the first such name is reported. -/
def identifiers : List String → Except Failure (List String)
  | [] => .ok []
  | name :: names => do
    let name ← identifier name
    let names ← identifiers names
    .ok (name :: names)

/-- A name is accepted exactly when it is an identifier, and it is kept as it is. -/
theorem identifier_eq_ok_iff {name accepted : String} :
    identifier name = .ok accepted ↔ name = accepted ∧ isIdentifier name = true := by
  unfold identifier
  split <;> simp_all

/-- Names are accepted exactly when each is an identifier, and they are kept as they are. -/
theorem identifiers_eq_ok_iff {names accepted : List String} :
    identifiers names = .ok accepted ↔
      names = accepted ∧ ∀ name ∈ names, isIdentifier name = true := by
  induction names generalizing accepted with
  | nil => simp [identifiers]
  | cons name names ih =>
    simp only [identifiers, bind, Except.bind]
    cases first : identifier name with
    | error f =>
      have refused : isIdentifier name ≠ true := fun h => by
        simp [identifier, h] at first
      simp [refused]
    | ok kept =>
      obtain ⟨rfl, valid⟩ := identifier_eq_ok_iff.1 first
      cases rest : identifiers names with
      | error f =>
        have refused : ¬∀ name ∈ names, isIdentifier name = true := fun all => by
          simp [ih.2 ⟨rfl, all⟩] at rest
        simp [valid, refused]
      | ok others =>
        obtain ⟨rfl, all⟩ := ih.1 rest
        simpa [valid] using fun _ => all

end Registrar
