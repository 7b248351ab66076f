import Registrar.Sql.Problem
import Registrar.Sql.Statement
import Registrar.Sql.Token

/-!
# Reading expressions

Expressions are read by the strength of their operators: an operator takes the operand before it
if it is at least as strong as the place demands, and operators of equal strength group to the
left.  Reading stops at the first token that cannot go on; what is left then names the culprit.
-/

namespace Registrar.Sql

open Registrar.Text Registrar.Number

/-- Why reading stopped. -/
inductive Stop where
  /-- The first of the tokens left over fits nowhere. -/
  | here (rest : List Token)
  | fault (f : Fault)

/-- Whether a token is a keyword. -/
def Token.isWord (t : Token) (word : String) : Bool :=
  t.kind == .word && upperAscii t.text == word

/-- Whether a token is a symbol. -/
def Token.isSymbol (t : Token) (symbol : String) : Bool :=
  t.kind == .symbol && t.text == symbol

/-- Keywords that are never names. -/
def reservedWords : List String :=
  ["ADD", "ALL", "ALTER", "AND", "AS", "AUTOINCREMENT", "BETWEEN", "CASE", "CHECK", "COLLATE",
   "COMMIT", "CONSTRAINT", "CREATE", "DEFAULT", "DEFERRABLE", "DELETE", "DISTINCT", "DROP",
   "ELSE", "ESCAPE", "EXCEPT", "EXISTS", "FOREIGN", "FROM", "GROUP", "HAVING", "IN", "INDEX",
   "INSERT", "INTERSECT", "INTO", "IS", "ISNULL", "JOIN", "LIMIT", "NOT", "NOTHING", "NOTNULL",
   "NULL", "ON", "OR", "ORDER", "PRIMARY", "REFERENCES", "RETURNING", "SELECT", "SET", "TABLE",
   "THEN", "TO", "TRANSACTION", "UNION", "UNIQUE", "UPDATE", "USING", "VALUES", "WHEN", "WHERE"]

/-- Keywords of joins; they are names only where no join can stand. -/
def joinWords : List String :=
  ["CROSS", "FULL", "INNER", "LEFT", "NATURAL", "OUTER", "RIGHT"]

/-- Whether a word is a keyword that is never a name. -/
def isReserved (word : String) : Bool :=
  reservedWords.contains (upperAscii word)

/-- Whether a token may name a table or column. -/
def Token.isName (t : Token) : Bool :=
  match t.kind with
  | .word => !isReserved t.text
  | .quotedName | .bracketedName | .string => true
  | _ => false

/-- Whether a token may name something right behind what it names. -/
def Token.isLooseName (t : Token) : Bool :=
  match t.kind with
  | .word => !isReserved t.text && !joinWords.contains (upperAscii t.text)
  | .quotedName | .bracketedName | .string => true
  | _ => false

/-- Reads a keyword. -/
def expectWord (word : String) : List Token → Except Stop (List Token)
  | t :: rest => if t.isWord word then .ok rest else .error (.here (t :: rest))
  | [] => .error (.here [])

/-- Reads a symbol. -/
def expectSymbol (symbol : String) : List Token → Except Stop (List Token)
  | t :: rest => if t.isSymbol symbol then .ok rest else .error (.here (t :: rest))
  | [] => .error (.here [])

/-- Reads a keyword if it is there. -/
def skipWord? (word : String) : List Token → Option (List Token)
  | t :: rest => if t.isWord word then some rest else none
  | [] => none

/-- Reads a symbol if it is there. -/
def skipSymbol? (symbol : String) : List Token → Option (List Token)
  | t :: rest => if t.isSymbol symbol then some rest else none
  | [] => none

/-- Reads a name. -/
def readName : List Token → Except Stop (Token × List Token)
  | t :: rest => if t.isName then .ok (t, rest) else .error (.here (t :: rest))
  | [] => .error (.here [])

/-- What may follow an operand. -/
inductive Follow where
  | binary (op : BinaryOp) (strength : Nat)
  | is
  | member
  | between
  | pattern (kind : PatternKind)
  | otherPattern
  | isNull
  | notNull
  | not
  | collate
deriving DecidableEq

/-- The operator of a symbol. -/
def symbolFollow : String → Option Follow
  | "=" | "==" => some (.binary .eq 4)
  | "<>" | "!=" => some (.binary .ne 4)
  | "<" => some (.binary .lt 5)
  | "<=" => some (.binary .le 5)
  | ">" => some (.binary .gt 5)
  | ">=" => some (.binary .ge 5)
  | "&" => some (.binary .bitAnd 7)
  | "|" => some (.binary .bitOr 7)
  | "<<" => some (.binary .shiftLeft 7)
  | ">>" => some (.binary .shiftRight 7)
  | "+" => some (.binary .add 8)
  | "-" => some (.binary .sub 8)
  | "*" => some (.binary .mul 9)
  | "/" => some (.binary .div 9)
  | "%" => some (.binary .rem 9)
  | "||" => some (.binary .concat 10)
  | _ => none

/-- The operator of a keyword. -/
def wordFollow : String → Option Follow
  | "OR" => some (.binary .or 1)
  | "AND" => some (.binary .and 2)
  | "IS" => some .is
  | "IN" => some .member
  | "BETWEEN" => some .between
  | "LIKE" => some (.pattern .like)
  | "GLOB" => some (.pattern .glob)
  | "REGEXP" | "MATCH" => some .otherPattern
  | "ISNULL" => some .isNull
  | "NOTNULL" => some .notNull
  | "NOT" => some .not
  | "COLLATE" => some .collate
  | _ => none

/-- The operator of a token. -/
def Token.follow? (t : Token) : Option Follow :=
  match t.kind with
  | .symbol => symbolFollow t.text
  | .word => wordFollow (upperAscii t.text)
  | _ => none

/-- The strength of an operator: disjunction is weakest.  The words for negated tests count as
the negation they start with. -/
def Follow.strength : Follow → Nat
  | .binary _ strength => strength
  | .not => 3
  | .collate => 11
  | _ => 4

/-- Undoes the negation of a test. -/
def Expr.negatedIf (negated : Bool) (e : Expr) : Expr :=
  if negated then .unary .not e else e

/-- The value of a run of hexadecimal digits. -/
def hexValue (ds : List Char) : Nat :=
  ds.foldl (fun n c =>
    16 * n + (if isDigit c then c.toNat - 48 else (lowerChar c).toNat - 87)) 0

/-- The number of an integer token; one of more than 64 bits is real. -/
def integerLiteral (source : List Char) : Cell :=
  match source with
  | '0' :: 'x' :: ds | '0' :: 'X' :: ds => .integer (Int64.ofNat (hexValue ds))
  | ds => match int64? (digitsValue ds) with
    | some n => .integer n
    | none => .real (Double.ofDecimal false (digitsValue ds) 0)

/-- The bytes of pairs of hexadecimal digits. -/
def hexBytes : List Char → List UInt8
  | a :: b :: cs => UInt8.ofNat (hexValue [a, b]) :: hexBytes cs
  | _ => []

/-- The bytes of a blob token. -/
def blobLiteral (source : List Char) : Cell :=
  .blob (hexBytes ((source.drop 2).dropLast))

/-- The test whether a value is true, or is false. -/
def Expr.truthTest (e : Expr) (wanted : Bool) : Expr :=
  let one : Expr := .literal (.integer 1)
  let zero : Expr := .literal (.integer 0)
  if wanted then .choice none [(e, one)] (some zero)
  else .choice none [(e, zero), (.unary .isNull e, zero)] (some one)

/-- The words of a type, up to a token that is no name. -/
def typeWords : List Token → List Token × List Token
  | t :: rest =>
    if t.isLooseName then
      let more := typeWords rest
      (t :: more.1, more.2)
    else ([], t :: rest)
  | [] => ([], [])

/-- Reads a signed number. -/
def readSigned : List Token → Except Stop (Token × List Token)
  | sign :: t :: rest =>
    if sign.isSymbol "+" || sign.isSymbol "-" then
      if t.kind == .integer || t.kind == .real then .ok (t, rest) else .error (.here (t :: rest))
    else if sign.kind == .integer || sign.kind == .real then .ok (sign, t :: rest)
    else .error (.here (sign :: t :: rest))
  | [t] =>
    if t.kind == .integer || t.kind == .real then .ok (t, [])
    else if t.isSymbol "+" || t.isSymbol "-" then .error (.here [])
    else .error (.here [t])
  | [] => .error (.here [])

/-- Reads a type: words and up to two numbers in parentheses.  Yields its tokens. -/
def readType (ts : List Token) : Except Stop (List Token × List Token) :=
  let words := typeWords ts
  match words.1, skipSymbol? "(" words.2 with
  | [], _ | _, none => .ok words
  | _ :: _, some rest => do
    let (_, rest) ← readSigned rest
    let rest ← match skipSymbol? "," rest with
      | some rest => do
        let (_, rest) ← readSigned rest
        pure rest
      | none => pure rest
    let rest ← expectSymbol ")" rest
    .ok (ts.take (ts.length - rest.length), rest)

/-- The text of a type in a conversion. -/
def typeText (ts : List Token) : String :=
  " ".intercalate (ts.map Token.text)

/-- The name of a table's column, or the column alone. -/
def columnOf (t : Token) : Expr :=
  .column none t.unquoted (t.kind == .quotedName) t.start

mutual

/-- Reads an expression whose operators are at least as strong as a level. -/
def readExpr : Nat → Nat → List Token → Except Stop (Expr × List Token)
  | 0, _, ts => .error (.here ts)
  | fuel + 1, level, ts => do
    let (e, rest) ← readOperand fuel ts
    readFollows fuel level e rest

/-- Goes on with an expression as far as operators of a level and more follow. -/
def readFollows : Nat → Nat → Expr → List Token → Except Stop (Expr × List Token)
  | 0, _, _, ts => .error (.here ts)
  | _ + 1, _, e, [] => .ok (e, [])
  | fuel + 1, level, e, t :: rest =>
    match t.follow? with
    | none => .ok (e, t :: rest)
    | some follow =>
      if follow.strength < level then .ok (e, t :: rest)
      else
        match follow with
        | .binary op strength => do
          let (b, rest) ← readExpr fuel (strength + 1) rest
          readFollows fuel level (.binary op e b) rest
        | .isNull => readFollows fuel level (.unary .isNull e) rest
        | .notNull => readFollows fuel level (.unary .notNull e) rest
        | .collate => do
          let (name, rest) ← readName rest
          match upperAscii name.unquoted with
          | "BINARY" => readFollows fuel level (.collate e .binary) rest
          | "NOCASE" => readFollows fuel level (.collate e .nocase) rest
          | "RTRIM" => readFollows fuel level (.collate e .rtrim) rest
          | _ => .error (.fault (Problem.unknownCollation name.unquoted).bare)
        | .is => do
          let (e, rest) ← readIdentity fuel e rest
          readFollows fuel level e rest
        | .not =>
          match rest with
          | [] => .error (.here [])
          | word :: rest =>
            if word.isWord "NULL" then readFollows fuel level (.unary .notNull e) rest
            else do
              let (e, rest) ← readTest fuel true e (word :: rest)
              readFollows fuel level e rest
        | .member | .between | .pattern _ | .otherPattern => do
          let (e, rest) ← readTest fuel false e (t :: rest)
          readFollows fuel level e rest

/-- Reads what stands behind the word for identity. -/
def readIdentity : Nat → Expr → List Token → Except Stop (Expr × List Token)
  | 0, _, ts => .error (.here ts)
  | fuel + 1, e, ts => do
    let negated := (skipWord? "NOT" ts).isSome
    let ts := (skipWord? "NOT" ts).getD ts
    match ts with
    | t :: rest =>
      if t.isWord "DISTINCT" then do
        let rest ← expectWord "FROM" rest
        let (b, rest) ← readExpr fuel 5 rest
        .ok (.binary (if negated then .is else .isNot) e b, rest)
      else if t.isWord "TRUE" then .ok (Expr.negatedIf negated (e.truthTest true), rest)
      else if t.isWord "FALSE" then .ok (Expr.negatedIf negated (e.truthTest false), rest)
      else do
        let (b, rest) ← readExpr fuel 5 ts
        .ok (.binary (if negated then .isNot else .is) e b, rest)
    | [] => .error (.here [])

/-- Reads a test that may be negated: membership, an interval or a pattern. -/
def readTest : Nat → Bool → Expr → List Token → Except Stop (Expr × List Token)
  | 0, _, _, ts => .error (.here ts)
  | _ + 1, _, _, [] => .error (.here [])
  | fuel + 1, negated, e, t :: rest =>
    match t.follow? with
    | some .member => do
      let rest ← expectSymbol "(" rest
      match skipSymbol? ")" rest with
      | some rest => .ok (.literal (.integer (if negated then 1 else 0)), rest)
      | none => do
        let (items, rest) ← readExprs fuel rest
        let rest ← expectSymbol ")" rest
        .ok (Expr.negatedIf negated (.member e items), rest)
    | some .between => do
      let (low, rest) ← readExpr fuel 3 rest
      let rest ← expectWord "AND" rest
      let (high, rest) ← readExpr fuel 5 rest
      .ok (Expr.negatedIf negated (.between e low high), rest)
    | some (.pattern kind) => do
      let (pattern, rest) ← readExpr fuel 5 rest
      match skipWord? "ESCAPE" rest with
      | some rest => do
        let (escape, rest) ← readExpr fuel 5 rest
        .ok (Expr.negatedIf negated (.pattern kind e pattern (some escape)), rest)
      | none => .ok (Expr.negatedIf negated (.pattern kind e pattern none), rest)
    | some .otherPattern => do
      let (pattern, rest) ← readExpr fuel 5 rest
      .ok (Expr.negatedIf negated (.call t.text [pattern, e] false false t.start), rest)
    | _ => .error (.here (t :: rest))

/-- Reads an operand. -/
def readOperand : Nat → List Token → Except Stop (Expr × List Token)
  | 0, ts => .error (.here ts)
  | _ + 1, [] => .error (.here [])
  | fuel + 1, t :: rest =>
    match t.kind with
    | .integer => .ok (.literal (integerLiteral t.source), rest)
    | .real => .ok (.literal (.real ((readReal? t.source).getD (Double.zero false))), rest)
    | .string => .ok (.literal (.text t.unquoted), rest)
    | .blob => .ok (.literal (blobLiteral t.source), rest)
    | .parameter =>
      if 1 ≤ t.slot ∧ t.slot ≤ 32766 then .ok (.parameter t.slot, rest)
      else .error (.fault (Problem.parameterRange.at t.start))
    | .symbol =>
      if t.isSymbol "(" then do
        let (e, rest) ← readExpr fuel 0 rest
        let rest ← expectSymbol ")" rest
        .ok (e, rest)
      else if t.isSymbol "-" then
        match rest with
        | d :: more =>
          if d.kind == .integer && d.source.all isDigit &&
              digitsValue d.source == Nat.pow 2 63 then
            .ok (.literal (.integer Int64.minValue), more)
          else do
            let (e, rest) ← readExpr fuel 12 rest
            .ok (.unary .minus e, rest)
        | [] => .error (.here [])
      else if t.isSymbol "+" then do
        let (e, rest) ← readExpr fuel 12 rest
        .ok (.unary .plus e, rest)
      else if t.isSymbol "~" then do
        let (e, rest) ← readExpr fuel 12 rest
        .ok (.unary .complement e, rest)
      else .error (.here (t :: rest))
    | .quotedName | .bracketedName => readNamed fuel t rest
    | .word =>
      if t.isWord "NOT" then do
        let (e, rest) ← readExpr fuel 3 rest
        .ok (.unary .not e, rest)
      else if t.isWord "NULL" then .ok (.literal .null, rest)
      else if t.isWord "CAST" && (skipSymbol? "(" rest).isSome then do
        let rest ← expectSymbol "(" rest
        let (e, rest) ← readExpr fuel 0 rest
        let rest ← expectWord "AS" rest
        let (words, rest) ← readType rest
        let rest ← expectSymbol ")" rest
        .ok (.cast e (Affinity.ofDeclared (typeText words)), rest)
      else if t.isWord "CASE" then readChoice fuel rest
      else if isReserved t.text then .error (.here (t :: rest))
      else readNamed fuel t rest
    | .unreadable => .error (.here (t :: rest))

/-- Reads what a name starts: a column, a column of a table, or a function. -/
def readNamed : Nat → Token → List Token → Except Stop (Expr × List Token)
  | 0, _, ts => .error (.here ts)
  | fuel + 1, t, rest =>
    match skipSymbol? "(" rest with
    | some rest =>
      match rest with
      | star :: close :: more =>
        if star.isSymbol "*" then
          if close.isSymbol ")" then .ok (.call t.unquoted [] true false t.start, more)
          else .error (.here (close :: more))
        else readCall fuel t rest
      | _ => readCall fuel t rest
    | none =>
      match skipSymbol? "." rest with
      | none => .ok (columnOf t, rest)
      | some rest => do
        let (second, rest) ← readName rest
        match skipSymbol? "." rest with
        | none => .ok (.column (some t.unquoted) second.unquoted false t.start, rest)
        | some rest => do
          let (third, rest) ← readName rest
          .ok (.column (some second.unquoted) third.unquoted false t.start, rest)

/-- Reads the arguments of a function. -/
def readCall : Nat → Token → List Token → Except Stop (Expr × List Token)
  | 0, _, ts => .error (.here ts)
  | fuel + 1, t, rest =>
    match skipSymbol? ")" rest with
    | some rest => .ok (.call t.unquoted [] false false t.start, rest)
    | none => do
      let distinct := (skipWord? "DISTINCT" rest).isSome
      let rest := ((skipWord? "DISTINCT" rest).or (skipWord? "ALL" rest)).getD rest
      let (arguments, rest) ← readExprs fuel rest
      let rest ← expectSymbol ")" rest
      .ok (.call t.unquoted arguments false distinct t.start, rest)

/-- Reads one or more expressions with commas between them. -/
def readExprs : Nat → List Token → Except Stop (List Expr × List Token)
  | 0, ts => .error (.here ts)
  | fuel + 1, ts => do
    let (e, rest) ← readExpr fuel 0 ts
    match skipSymbol? "," rest with
    | some rest => do
      let (es, rest) ← readExprs fuel rest
      .ok (e :: es, rest)
    | none => .ok ([e], rest)

/-- Reads a choice, behind its first keyword. -/
def readChoice : Nat → List Token → Except Stop (Expr × List Token)
  | 0, ts => .error (.here ts)
  | fuel + 1, ts => do
    let (subject, rest) ← match skipWord? "WHEN" ts with
      | some _ => pure (none, ts)
      | none => do
        let (e, rest) ← readExpr fuel 0 ts
        pure (some e, rest)
    let (branches, rest) ← readBranches fuel rest
    match skipWord? "ELSE" rest with
    | some rest => do
      let (e, rest) ← readExpr fuel 0 rest
      let rest ← expectWord "END" rest
      .ok (.choice subject branches (some e), rest)
    | none => do
      let rest ← expectWord "END" rest
      .ok (.choice subject branches none, rest)

/-- Reads one or more branches of a choice. -/
def readBranches : Nat → List Token → Except Stop (List (Expr × Expr) × List Token)
  | 0, ts => .error (.here ts)
  | fuel + 1, ts => do
    let rest ← expectWord "WHEN" ts
    let (test, rest) ← readExpr fuel 0 rest
    let rest ← expectWord "THEN" rest
    let (e, rest) ← readExpr fuel 0 rest
    match skipWord? "WHEN" rest with
    | some _ => do
      let (branches, rest) ← readBranches fuel rest
      .ok ((test, e) :: branches, rest)
    | none => .ok ([(test, e)], rest)

end

/-- The readings that an expression of some tokens can take, one inside the other. -/
def exprFuel (ts : List Token) : Nat :=
  4 * ts.length + 8

/-- Reads an expression. -/
def readWhole (ts : List Token) : Except Stop (Expr × List Token) :=
  readExpr (exprFuel ts) 0 ts

end Registrar.Sql
