/-!
# Bytes as text

Bytes are written with sixty-four characters, four characters for three bytes; the last group is
as short as its bytes allow, and nothing is filled up.
-/

namespace Registrar.Text.Base64

/-- The characters, by the number that they stand for. -/
def alphabet : List Char :=
  "ABCDEFGHIJKLMNOPQRSTUVWXYZabcdefghijklmnopqrstuvwxyz0123456789+/".toList

/-- The character of a number below sixty-four. -/
def char (n : Nat) : Char :=
  alphabet.getD n 'A'

/-- The number that a character stands for. -/
def value? (c : Char) : Option Nat :=
  alphabet.findIdx? (· == c)

/-- Writes bytes. -/
def encode : List UInt8 → List Char
  | [] => []
  | [a] => [char (a.toNat / 4), char (a.toNat % 4 * 16)]
  | [a, b] =>
    [char (a.toNat / 4), char (a.toNat % 4 * 16 + b.toNat / 16), char (b.toNat % 16 * 4)]
  | a :: b :: c :: rest =>
    char (a.toNat / 4) :: char (a.toNat % 4 * 16 + b.toNat / 16) ::
      char (b.toNat % 16 * 4 + c.toNat / 64) :: char (c.toNat % 64) :: encode rest

/-- The bytes that the numbers of characters stand for; bits left over have to be zero. -/
def bytesOf : List Nat → Option (List UInt8)
  | [] => some []
  | [_] => none
  | [a, b] => if b % 16 = 0 then some [(a * 4 + b / 16).toUInt8] else none
  | [a, b, c] =>
    if c % 4 = 0 then some [(a * 4 + b / 16).toUInt8, (b % 16 * 16 + c / 4).toUInt8] else none
  | a :: b :: c :: d :: rest => do
    let bytes ← bytesOf rest
    some ((a * 4 + b / 16).toUInt8 :: (b % 16 * 16 + c / 4).toUInt8 ::
      (c % 4 * 64 + d).toUInt8 :: bytes)

/-- Reads bytes. -/
def decode? (cs : List Char) : Option (List UInt8) := do
  bytesOf (← cs.mapM value?)

/-- Reading a character gives back the number that it stands for. -/
theorem value?_char : ∀ n < 64, value? (char n) = some n := by
  decide

/-- A byte is the number that its value writes. -/
theorem toUInt8_eq {n : Nat} {a : UInt8} (h : n = a.toNat) : n.toUInt8 = a := by
  subst h
  exact UInt8.ofNat_toNat

/-- Reading gives back the bytes that were written. -/
theorem decode?_encode (bytes : List UInt8) : decode? (encode bytes) = some bytes := by
  fun_induction encode bytes with
  | case1 => rfl
  | case2 a =>
    have ha := a.toNat_lt
    simp only [decode?, List.mapM_cons, List.mapM_nil, value?_char (a.toNat / 4) (by omega),
      value?_char (a.toNat % 4 * 16) (by omega), bytesOf, Option.pure_def, Option.bind_eq_bind,
      Option.bind_some, Nat.mul_mod_left, ↓reduceIte]
    rw [toUInt8_eq (a := a) (by omega)]
  | case3 a b =>
    have ha := a.toNat_lt
    have hb := b.toNat_lt
    simp only [decode?, List.mapM_cons, List.mapM_nil, value?_char (a.toNat / 4) (by omega),
      value?_char (a.toNat % 4 * 16 + b.toNat / 16) (by omega),
      value?_char (b.toNat % 16 * 4) (by omega), bytesOf, Option.pure_def, Option.bind_eq_bind,
      Option.bind_some, Nat.mul_mod_left, ↓reduceIte]
    rw [toUInt8_eq (a := a) (by omega), toUInt8_eq (a := b) (by omega)]
  | case4 a b c rest ih =>
    have ha := a.toNat_lt
    have hb := b.toNat_lt
    have hc := c.toNat_lt
    obtain ⟨ns, read, rest_read⟩ := Option.bind_eq_some_iff.1 ih
    simp only [decode?, List.mapM_cons, value?_char (a.toNat / 4) (by omega),
      value?_char (a.toNat % 4 * 16 + b.toNat / 16) (by omega),
      value?_char (b.toNat % 16 * 4 + c.toNat / 64) (by omega),
      value?_char (c.toNat % 64) (by omega), read, bytesOf, rest_read, Option.pure_def,
      Option.bind_eq_bind, Option.bind_some]
    rw [toUInt8_eq (a := a) (by omega), toUInt8_eq (a := b) (by omega),
      toUInt8_eq (a := c) (by omega)]

end Registrar.Text.Base64
