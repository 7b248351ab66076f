import Registrar.Config.Scalar

/-!
# Configuration texts

The text of a configuration: sections of keys and values.  Reading yields the sections in order,
with every pair of a key and a value that they hold; whether a pair may occur twice is up to who
uses them.
-/

namespace Registrar.Config

open Registrar.Text

/-- A value of a configuration. -/
inductive Item where
  | text (s : String)
  /-- A number, a boolean, a date or a time. -/
  | scalar
  | array (items : List Item)
  /-- A table on one line. -/
  | table (pairs : List (String × Item))
  /-- A table that points between keys make. -/
  | dotted (pairs : List (String × Item))

/-- A section: its header, and the pairs under it. -/
structure Section where
  header : List String
  /-- The header stands in double brackets, so that it may occur again. -/
  isArray : Bool
  pairs : List (String × Item)

/-- A character that may stand in a text or a comment. -/
def isTextChar (c : Char) : Bool :=
  c == '\t' || (0x20 ≤ c.toNat && c.toNat != 0x7f)

/-- A space or a tab. -/
def isSpace (c : Char) : Bool :=
  c == ' ' || c == '\t'

/-- Passes over spaces and tabs. -/
def skipSpaces (cs : List Char) : List Char :=
  cs.dropWhile isSpace

/-- Passes over the end of a line, if it is there. -/
def skipNewline? : List Char → Option (List Char)
  | '\n' :: cs => some cs
  | '\r' :: '\n' :: cs => some cs
  | _ => none

/-- Passes over a comment, if it is there. -/
def skipComment (cs : List Char) : List Char :=
  match cs with
  | '#' :: rest => rest.dropWhile isTextChar
  | cs => cs

/-- Passes over spaces, comments and ends of lines. -/
def skipLines : Nat → List Char → List Char
  | 0, cs => cs
  | fuel + 1, cs =>
    let rest := skipComment (skipSpaces cs)
    match skipNewline? rest with
    | some rest => skipLines fuel rest
    | none => rest

/-- Passes over what may follow on the line of a header or a pair. -/
def endLine (cs : List Char) : Option (List Char) :=
  match skipComment (skipSpaces cs) with
  | [] => some []
  | rest => skipNewline? rest

/-- The character of a hexadecimal number of some digits. -/
def readCode (digits : Nat) (cs : List Char) : Option (Char × List Char) :=
  let code := cs.take digits
  if code.length = digits ∧ code.all isHexDigit then
    let n := runValue 16 code
    if n < 0xd800 ∨ (0xdfff < n ∧ n < 0x110000) then some (Char.ofNat n, cs.drop digits) else none
  else none

/-- The character behind a backslash. -/
def readEscape : List Char → Option (Char × List Char)
  | 'b' :: cs => some ('\x08', cs)
  | 't' :: cs => some ('\t', cs)
  | 'n' :: cs => some ('\n', cs)
  | 'f' :: cs => some ('\x0c', cs)
  | 'r' :: cs => some ('\r', cs)
  | '\x22' :: cs => some ('\x22', cs)
  | '\\' :: cs => some ('\\', cs)
  | 'u' :: cs => readCode 4 cs
  | 'U' :: cs => readCode 8 cs
  | _ => none

/-- Passes over blanks and ends of lines. -/
def skipFold : Nat → List Char → List Char
  | 0, cs => cs
  | fuel + 1, cs =>
    match skipNewline? (skipSpaces cs) with
    | some rest => skipFold fuel rest
    | none => skipSpaces cs

/-- Reads the rest of a text on one line, up to its closing quote. -/
def readLine (quote : Char) (escapes : Bool) : Nat → List Char → Option (List Char × List Char)
  | 0, _ => none
  | _ + 1, [] => none
  | fuel + 1, c :: cs =>
    if c = quote then some ([], cs)
    else if escapes ∧ c = '\\' then do
      let (d, rest) ← readEscape cs
      let (ds, rest) ← readLine quote escapes fuel rest
      some (d :: ds, rest)
    else if isTextChar c then do
      let (ds, rest) ← readLine quote escapes fuel cs
      some (c :: ds, rest)
    else none

/-- Reads the rest of a text of several lines, up to its three closing quotes; up to two more
quotes in front of them belong to the text. -/
def readLines (quote : Char) (escapes : Bool) : Nat → List Char → Option (List Char × List Char)
  | 0, _ => none
  | _ + 1, [] => none
  | fuel + 1, c :: cs =>
    if c = quote ∧ cs.take 2 = [quote, quote] then
      let more := ((cs.drop 2).take 2).takeWhile (· == quote)
      some (more, cs.drop (2 + more.length))
    else if escapes ∧ c = '\\' then
      match skipNewline? (skipSpaces cs) with
      | some rest => readLines quote escapes fuel (skipFold fuel rest)
      | none => do
        let (d, rest) ← readEscape cs
        let (ds, rest) ← readLines quote escapes fuel rest
        some (d :: ds, rest)
    else
      match skipNewline? (c :: cs) with
      | some rest => do
        let (ds, rest) ← readLines quote escapes fuel rest
        some ('\n' :: ds, rest)
      | none =>
        if isTextChar c then do
          let (ds, rest) ← readLines quote escapes fuel cs
          some (c :: ds, rest)
        else none

/-- Reads a text behind its opening quote.  Yields also whether it may have several lines. -/
def readText (quote : Char) (cs : List Char) : Option ((String × Bool) × List Char) :=
  let escapes := quote == '\x22'
  if cs.take 2 = [quote, quote] then do
    let inside := (skipNewline? (cs.drop 2)).getD (cs.drop 2)
    let (text, rest) ← readLines quote escapes (inside.length + 1) inside
    some ((String.ofList text, true), rest)
  else do
    let (text, rest) ← readLine quote escapes (cs.length + 1) cs
    some ((String.ofList text, false), rest)

/-- A character of a key without quotes. -/
def isKeyChar (c : Char) : Bool :=
  isLetter c || isDigit c || c == '_' || c == '-'

/-- Reads a key. -/
def readKey (cs : List Char) : Option (String × List Char) :=
  match cs with
  | [] => none
  | c :: rest =>
    if c == '\x22' || c == '\x27' then
      match readText c rest with
      | some ((text, false), rest) => some (text, rest)
      | _ => none
    else
      let name := cs.takeWhile isKeyChar
      if name.isEmpty then none else some (String.ofList name, cs.dropWhile isKeyChar)

/-- Reads keys with points between them. -/
def readPath : Nat → List Char → Option (List String × List Char)
  | 0, _ => none
  | fuel + 1, cs => do
    let (key, rest) ← readKey cs
    match skipSpaces rest with
    | '.' :: rest => do
      let (keys, rest) ← readPath fuel (skipSpaces rest)
      some (key :: keys, rest)
    | _ => some ([key], rest)

/-- Adds a value under a path of keys.  All keys but the last lead into tables that such paths
make; a path that leads into anything else is refused. -/
def addPath : List String → Item → List (String × Item) → Option (List (String × Item))
  | [], _, _ => none
  | [key], item, pairs => some (pairs ++ [(key, item)])
  | key :: keys, item, pairs =>
    match pairs.find? fun pair => pair.1 == key with
    | none => do
      let inner ← addPath keys item []
      some (pairs ++ [(key, .dotted inner)])
    | some (_, .dotted inner) => do
      let inner ← addPath keys item inner
      some (pairs.map fun pair =>
        match pair with
        | (name, .dotted old) => if name == key then (name, .dotted inner) else (name, .dotted old)
        | pair => pair)
    | some _ => none

/-- Adds values under paths of keys, one after another. -/
def addPaths : List (List String × Item) → List (String × Item) → Option (List (String × Item))
  | [], pairs => some pairs
  | (path, item) :: rest, pairs => do
    let pairs ← addPath path item pairs
    addPaths rest pairs

/-- A character of a bare value. -/
def isScalarChar (c : Char) : Bool :=
  isKeyChar c || c == '+' || c == '.' || c == ':'

/-- Reads a bare value; a space may stand between a date and a time. -/
def readScalar (cs : List Char) : Option (Item × List Char) :=
  let first := cs.takeWhile isScalarChar
  let rest := cs.dropWhile isScalarChar
  match rest with
  | ' ' :: d :: more =>
    if isDateText first && isDigit d then
      let time := (d :: more).takeWhile isScalarChar
      if isScalarText (first ++ ' ' :: time) then
        some (.scalar, (d :: more).dropWhile isScalarChar)
      else none
    else if isScalarText first then some (.scalar, rest) else none
  | rest => if isScalarText first then some (.scalar, rest) else none

mutual

/-- Reads a value. -/
def readItem : Nat → List Char → Option (Item × List Char)
  | 0, _ => none
  | _ + 1, [] => none
  | fuel + 1, c :: cs =>
    if c == '\x22' || c == '\x27' then do
      let ((text, _), rest) ← readText c cs
      some (.text text, rest)
    else if c == '[' then do
      let (items, rest) ← readItems fuel (skipLines (cs.length + 1) cs)
      some (.array items, rest)
    else if c == '\x7b' then
      match skipSpaces cs with
      | '\x7d' :: rest => some (.table [], rest)
      | rest => do
        let (paths, rest) ← readPaths fuel rest
        let pairs ← addPaths paths []
        some (.table pairs, rest)
    else readScalar (c :: cs)

/-- Reads the items of an array, up to its closing bracket. -/
def readItems : Nat → List Char → Option (List Item × List Char)
  | 0, _ => none
  | _ + 1, ']' :: rest => some ([], rest)
  | fuel + 1, cs => do
    let (item, rest) ← readItem fuel cs
    match skipLines (rest.length + 1) rest with
    | ',' :: rest => do
      let (items, rest) ← readItems fuel (skipLines (rest.length + 1) rest)
      some (item :: items, rest)
    | ']' :: rest => some ([item], rest)
    | _ => none

/-- Reads the pairs of a table on one line, up to its closing brace. -/
def readPaths : Nat → List Char → Option (List (List String × Item) × List Char)
  | 0, _ => none
  | fuel + 1, cs => do
    let (path, rest) ← readPath (cs.length + 1) cs
    match skipSpaces rest with
    | '=' :: rest => do
      let (item, rest) ← readItem fuel (skipSpaces rest)
      match skipSpaces rest with
      | ',' :: rest => do
        let (paths, rest) ← readPaths fuel (skipSpaces rest)
        some ((path, item) :: paths, rest)
      | '\x7d' :: rest => some ([(path, item)], rest)
      | _ => none
    | _ => none

end

/-- Reads a pair of a path of keys and a value, up to the end of its line. -/
def readPair (cs : List Char) : Option ((List String × Item) × List Char) := do
  let (path, rest) ← readPath (cs.length + 1) cs
  match skipSpaces rest with
  | '=' :: rest => do
    let (item, rest) ← readItem (2 * rest.length + 2) (skipSpaces rest)
    let rest ← endLine rest
    some ((path, item), rest)
  | _ => none

/-- Reads a header behind its first bracket, up to the end of its line. -/
def readHeader (cs : List Char) : Option (Section × List Char) := do
  let isArray := cs.head? == some '['
  let cs := if isArray then cs.drop 1 else cs
  let (header, rest) ← readPath (cs.length + 1) (skipSpaces cs)
  let rest ← match isArray, skipSpaces rest with
    | true, ']' :: ']' :: rest => some rest
    | false, ']' :: rest => some rest
    | _, _ => none
  let rest ← endLine rest
  some (⟨header, isArray, []⟩, rest)

/-- Reads sections, the pairs of the one at hand collected so far. -/
def readSections : Nat → Section → List Char → Option (List Section)
  | 0, _, _ => none
  | fuel + 1, current, cs =>
    match skipLines (cs.length + 1) cs with
    | [] => some [current]
    | '[' :: rest => do
      let (next, rest) ← readHeader rest
      let sections ← readSections fuel next rest
      some (current :: sections)
    | rest => do
      let ((path, item), rest) ← readPair rest
      let pairs ← addPath path item current.pairs
      readSections fuel { current with pairs } rest

/-- Reads a configuration text; a mark of the byte order in front is passed over. -/
def sections? (text : String) : Option (List Section) :=
  let cs := text.toList
  let cs := if cs.head? == some '\uFEFF' then cs.drop 1 else cs
  readSections (cs.length + 1) ⟨[], false, []⟩ cs

end Registrar.Config
