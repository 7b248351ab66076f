import Registrar.Number.IntegerText

/-!
# Tokens of a statement

A statement's text is cut into words, numbers, quoted texts and symbols; white space and comments
between them are left out.  Every token keeps the place of its first byte, because messages about
a statement name that place.  Text that starts no token becomes an unreadable token, which is an
error only once the statement gets that far.
-/

namespace Registrar.Sql

open Registrar.Text

/-- What a token is. -/
inductive TokenKind where
  /-- A bare name or keyword. -/
  | word
  /-- A name in double quotes, which may also stand for a text. -/
  | quotedName
  /-- A name in backquotes or brackets. -/
  | bracketedName
  | string
  | integer
  | real
  | blob
  | parameter
  | symbol
  | unreadable
deriving DecidableEq

/-- A token. -/
structure Token where
  kind : TokenKind
  /-- The token as it is written. -/
  source : List Char
  /-- The place of its first byte. -/
  start : Nat
  /-- The number of the parameter that the token stands for, zero when it stands for none. -/
  slot : Nat
deriving DecidableEq

/-- The number of bytes of some characters. -/
def byteLength (cs : List Char) : Nat :=
  cs.foldr (fun c size => c.utf8Size + size) 0

/-- The place behind a token. -/
def Token.stop (t : Token) : Nat :=
  t.start + byteLength t.source

/-- The text of a token as it is written. -/
def Token.text (t : Token) : String :=
  String.ofList t.source

namespace Token

/-- A character that may start a name. -/
def startsName (c : Char) : Bool :=
  isLetter c || c == '_' || 0x80 ≤ c.toNat

/-- A character that may go on with a name. -/
def isNameChar (c : Char) : Bool :=
  startsName c || isDigit c || c == '$'

/-- White space that may start a gap between tokens. -/
def startsGap (c : Char) : Bool :=
  c == ' ' || c == '\t' || c == '\n' || c == '\x0c' || c == '\r'

/-- White space that may go on with a gap between tokens. -/
def isGap (c : Char) : Bool :=
  startsGap c || c == '\x0b'

/-- A hexadecimal digit. -/
def isHexDigit (c : Char) : Bool :=
  isDigit c || ('a' ≤ c && c ≤ 'f') || ('A' ≤ c && c ≤ 'F')

/-- The length of a comment up to its closing mark; one without a mark takes the rest. -/
def blockLength : List Char → Nat
  | '*' :: '/' :: _ => 2
  | _ :: cs => blockLength cs + 1
  | [] => 0

/-- The length of a quoted text behind its opening quote, the closing one included; a doubled quote
does not close it. -/
def quotedLength (quote : Char) : List Char → Option Nat
  | [] => none
  | [c] => if c = quote then some 1 else none
  | c :: d :: cs =>
    if c = quote then
      if d = quote then (quotedLength quote cs).map (· + 2) else some 1
    else (quotedLength quote (d :: cs)).map (· + 1)

/-- The length of a number's exponent, zero when there is none. -/
def exponentLength : List Char → Nat
  | c :: d :: cs =>
    if c == 'e' || c == 'E' then
      if isDigit d then 1 + ((d :: cs).takeWhile isDigit).length
      else if d == '+' || d == '-' then
        let digits := (cs.takeWhile isDigit).length
        if digits = 0 then 0 else 2 + digits
      else 0
    else 0
  | _ => 0

/-- The kind and length of a decimal number. -/
def decimalShape (cs : List Char) : TokenKind × Nat :=
  let whole := (cs.takeWhile isDigit).length
  let part := match cs.drop whole with
    | '.' :: rest => 1 + (rest.takeWhile isDigit).length
    | _ => 0
  let exponent := exponentLength (cs.drop (whole + part))
  (if part + exponent = 0 then .integer else .real, whole + part + exponent)

/-- The kind and length of a number, decimal or hexadecimal. -/
def plainNumberShape (cs : List Char) : TokenKind × Nat :=
  match cs with
  | '0' :: x :: d :: rest =>
    if (x == 'x' || x == 'X') && isHexDigit d then
      (.integer, 2 + ((d :: rest).takeWhile isHexDigit).length)
    else decimalShape cs
  | _ => decimalShape cs

/-- The kind and length of a number; letters right behind it make it unreadable. -/
def numberShape (cs : List Char) : TokenKind × Nat :=
  let plain := plainNumberShape cs
  let trailing := ((cs.drop plain.2).takeWhile isNameChar).length
  if trailing = 0 then plain else (.unreadable, plain.2 + trailing)

/-- The kind and length of a quoted text, its opening quote the first character. -/
def quotedShape (kind : TokenKind) (quote : Char) (cs : List Char) : TokenKind × Nat :=
  match quotedLength quote cs with
  | some n => (kind, n + 1)
  | none => (.unreadable, cs.length + 1)

/-- The kind and length of a text of bytes, behind its letter and opening quote. -/
def blobShape (cs : List Char) : TokenKind × Nat :=
  let digits := (cs.takeWhile isHexDigit).length
  match cs.drop digits with
  | '\x27' :: _ => (if digits % 2 = 0 then .blob else .unreadable, digits + 3)
  | rest =>
    let skipped := (rest.takeWhile (· != '\x27')).length
    (.unreadable, digits + 2 + skipped + (if skipped < rest.length then 1 else 0))

/-- The kind and length of what a text starts with; no kind for a gap. -/
def shape : List Char → Option TokenKind × Nat
  | [] => (none, 0)
  | c :: cs =>
    if startsGap c then (none, 1 + (cs.takeWhile isGap).length)
    else if startsName c then
      match c, cs with
      | 'x', '\x27' :: rest | 'X', '\x27' :: rest =>
        let blob := blobShape rest
        (some blob.1, blob.2)
      | _, _ => (some .word, 1 + (cs.takeWhile isNameChar).length)
    else if isDigit c then
      let number := numberShape (c :: cs)
      (some number.1, number.2)
    else
      match c, cs with
      | '-', '-' :: rest => (none, 2 + (rest.takeWhile (· != '\n')).length)
      | '-', '>' :: '>' :: _ => (some .symbol, 3)
      | '-', '>' :: _ => (some .symbol, 2)
      | '/', '*' :: d :: rest => (none, 2 + blockLength (d :: rest))
      | '=', '=' :: _ | '<', '=' :: _ | '<', '>' :: _ | '<', '<' :: _ | '>', '=' :: _
      | '>', '>' :: _ | '!', '=' :: _ | '|', '|' :: _ => (some .symbol, 2)
      | '.', d :: _ =>
        if isDigit d then
          let number := numberShape (c :: cs)
          (some number.1, number.2)
        else (some .symbol, 1)
      | '\x27', rest =>
        let quoted := quotedShape .string c rest
        (some quoted.1, quoted.2)
      | '\x22', rest =>
        let quoted := quotedShape .quotedName c rest
        (some quoted.1, quoted.2)
      | '\x60', rest =>
        let quoted := quotedShape .bracketedName c rest
        (some quoted.1, quoted.2)
      | '[', rest =>
        let inside := (rest.takeWhile (· != ']')).length
        if inside < rest.length then (some .bracketedName, inside + 2)
        else (some .unreadable, rest.length + 1)
      | '?', rest => (some .parameter, 1 + (rest.takeWhile isDigit).length)
      | ':', rest | '@', rest | '$', rest =>
        let name := (rest.takeWhile isNameChar).length
        (some (if name = 0 then .unreadable else .parameter), 1 + name)
      | _, _ =>
        if "-+*/%=<>|&~(),;.".toList.contains c then (some .symbol, 1)
        else (some .unreadable, 1)

/-- Cuts a text into tokens, from a place on; every token and gap takes at least one character. -/
def scanFrom : Nat → Nat → List Char → List Token
  | 0, _, _ => []
  | _ + 1, _, [] => []
  | fuel + 1, start, c :: cs =>
    if c == '\x00' then []
    else
      let s := shape (c :: cs)
      let length := max 1 s.2
      let source := (c :: cs).take length
      let rest := scanFrom fuel (start + byteLength source) ((c :: cs).drop length)
      match s.1 with
      | none => rest
      | some kind => ⟨kind, source, start, 0⟩ :: rest

/-- What is known of the parameters of the tokens read so far. -/
structure Slots where
  /-- The greatest number given to a parameter. -/
  most : Nat
  /-- The numbers of the parameters that have names. -/
  named : List (List Char × Nat)

/-- The number of a parameter: its own, the one of its name, or the next one. -/
def slotOf (slots : Slots) (source : List Char) : Nat :=
  match source with
  | '?' :: [] => slots.most + 1
  | '?' :: ds => Number.digitsValue ds
  | _ => ((slots.named.find? fun entry => entry.1 == source).map Prod.snd).getD (slots.most + 1)

/-- Gives the parameters among some tokens their numbers, in the order of the text. -/
def numberSlots (slots : Slots) : List Token → List Token
  | [] => []
  | t :: ts =>
    if t.kind = .parameter then
      let n := slotOf slots t.source
      let named := match t.source with
        | '?' :: _ => slots.named
        | _ => (t.source, n) :: slots.named
      { t with slot := n } :: numberSlots ⟨max slots.most n, named⟩ ts
    else t :: numberSlots slots ts

/-- The tokens of a text; a null character ends it. -/
def scan (sql : String) : List Token :=
  scanFrom sql.toList.length 0 sql.toList

/-- Drops the second quote of every pair. -/
def undouble (quote : Char) : List Char → List Char
  | c :: d :: cs =>
    if c = quote ∧ d = quote then quote :: undouble quote cs else c :: undouble quote (d :: cs)
  | cs => cs

/-- The name or text that a token stands for, without its quotes. -/
def unquoted (t : Token) : String :=
  match t.kind, t.source with
  | .string, _ :: rest => String.ofList (undouble '\x27' rest.dropLast)
  | .quotedName, _ :: rest => String.ofList (undouble '\x22' rest.dropLast)
  | .bracketedName, '[' :: rest => String.ofList rest.dropLast
  | .bracketedName, _ :: rest => String.ofList (undouble '\x60' rest.dropLast)
  | _, source => String.ofList source

end Token

end Registrar.Sql
