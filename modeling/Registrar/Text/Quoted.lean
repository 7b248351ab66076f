import Registrar.Text.Printable

/-!
# Quoted texts

Two ways to write a text between double quotes.  Messages quote a text for a reader: what would
not show is escaped by its code point.  Data interchange escapes only what its format demands: the
quote, the backslash and the control characters below the space.
-/

namespace Registrar.Text

/-- The digit of a value below sixteen, in small letters. -/
def hexDigit (n : Nat) : Char :=
  if n < 10 then Char.ofNat (48 + n) else Char.ofNat (87 + n)

/-- Hexadecimal digits of a number, without leading zeros. -/
def hexDigits (n : Nat) : List Char :=
  if _h : n < 16 then [hexDigit n] else hexDigits (n / 16) ++ [hexDigit (n % 16)]
termination_by n
decreasing_by omega

/-- A character as a message shows it inside quotes. -/
def messageChar (c : Char) : List Char :=
  if c == '\x00' then ['\\', '0']
  else if c == '\t' then ['\\', 't']
  else if c == '\r' then ['\\', 'r']
  else if c == '\n' then ['\\', 'n']
  else if c == '\\' then ['\\', '\\']
  else if c == '\x22' then ['\\', '\x22']
  else if 0x20 ≤ c.toNat && c.toNat < 0x7f then [c]
  else if isExtending c || !isPrintable c then
    ['\\', 'u', '\x7b'] ++ hexDigits c.toNat ++ ['\x7d']
  else [c]

/-- A text in quotes, as a message shows it. -/
def quoted (s : String) : String :=
  String.ofList ('\x22' :: s.toList.flatMap messageChar ++ ['\x22'])

/-- A character inside the quotes of an interchange text. -/
def dataChar (c : Char) : List Char :=
  if c == '\x22' then ['\\', '\x22']
  else if c == '\\' then ['\\', '\\']
  else if c == '\x08' then ['\\', 'b']
  else if c == '\x0c' then ['\\', 'f']
  else if c == '\n' then ['\\', 'n']
  else if c == '\r' then ['\\', 'r']
  else if c == '\t' then ['\\', 't']
  else if c.toNat < 0x20 then
    ['\\', 'u', '0', '0', hexDigit (c.toNat / 16), hexDigit (c.toNat % 16)]
  else [c]

/-- A text in quotes, as data interchange writes it. -/
def dataQuoted (s : String) : String :=
  String.ofList ('\x22' :: s.toList.flatMap dataChar ++ ['\x22'])

end Registrar.Text
