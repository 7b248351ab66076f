import Registrar.Accounts
import Registrar.Password.Argon
import Registrar.Text.Base64

/-!
# Digests of passwords

A digest tells how it was derived, so that a password can be checked against it later: the
algorithm, its version, the cost, the salt and the derived bytes, each behind a dollar sign.
-/

namespace Registrar.Password

open Registrar.Number Registrar.Text

/-- A digest of a password. -/
structure Digest where
  cost : Argon.Cost
  salt : List UInt8
  derived : List UInt8
deriving DecidableEq

namespace Digest

/-- The number of derived bytes of a new digest. -/
def length : Nat := 32

/-- Digests a password. -/
def ofPassword (cost : Argon.Cost) (salt : List UInt8) (password : String) : Digest :=
  ⟨cost, salt, Argon.derive cost length password.toUTF8.toList salt⟩

/-- Whether a digest is that of a password. -/
def accepts (digest : Digest) (password : String) : Bool :=
  digest.derived ==
    Argon.derive digest.cost digest.derived.length password.toUTF8.toList digest.salt

/-- The text of a digest. -/
def text (digest : Digest) : String :=
  "$argon2id$v=19$m=" ++ intText digest.cost.memory ++ ",t=" ++ intText digest.cost.passes ++
    ",p=1$" ++ String.ofList (Base64.encode digest.salt) ++ "$" ++
    String.ofList (Base64.encode digest.derived)

/-- The cost that the parameters of a digest tell. -/
def cost? (parameters : List Char) : Option Argon.Cost :=
  match splitWhere (· == ',') parameters with
  | ['m' :: '=' :: memory, 't' :: '=' :: passes, ['p', '=', '1']] => do
    let memory ← unsigned? memory
    let passes ← unsigned? passes
    if 8 ≤ memory ∧ 1 ≤ passes then some ⟨memory, passes⟩ else none
  | _ => none

/-- Reads the text of a digest. -/
def ofText? (text : String) : Option Digest :=
  match splitWhere (· == '$') text.toList with
  | [[], algorithm, version, parameters, salt, derived] =>
    if String.ofList algorithm = "argon2id" ∧ String.ofList version = "v=19" then do
      let cost ← cost? parameters
      let salt ← Base64.decode? salt
      let derived ← Base64.decode? derived
      some ⟨cost, salt, derived⟩
    else none
  | _ => none

/-- The name of the algorithm that a text of a digest tells. -/
def algorithm (text : String) : String :=
  match splitWhere (· == '$') text.toList with
  | _ :: name :: _ => String.ofList name
  | _ => ""

end Digest

/-- Hashes passwords at a cost with a salt. -/
def hasher (cost : Argon.Cost) (salt : List UInt8) : Hasher where
  hash password := .ok (Digest.ofPassword cost salt password).text
  verify text password :=
    match Digest.ofText? text with
    | some digest => .ok (digest.accepts password)
    | none => .error "the text is no digest"

end Registrar.Password
