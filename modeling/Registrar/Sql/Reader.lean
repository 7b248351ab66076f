import Registrar.Sql.Parser

/-!
# Reading statements

The first statement of a text.  Semicolons before it are passed over; the one behind it ends it,
and what follows stays unread.  A statement is read to its end before any of its names is looked
up.
-/

namespace Registrar.Sql

open Registrar.Text

/-- Drops a number of bytes. -/
def dropBytes : Nat → List Char → List Char
  | 0, cs => cs
  | _ + 1, [] => []
  | n + 1, c :: cs => dropBytes (n + 1 - c.utf8Size) cs

/-- Takes a number of bytes. -/
def takeBytes : Nat → List Char → List Char
  | 0, _ => []
  | _ + 1, [] => []
  | n + 1, c :: cs => c :: takeBytes (n + 1 - c.utf8Size) cs

/-- The text between two places, without the white space around it. -/
def between (sql : List Char) (start stop : Nat) : String :=
  let inside := takeBytes (stop - start) (dropBytes start sql)
  String.ofList
    ((inside.dropWhile Cell.isSpace).reverse.dropWhile Cell.isSpace).reverse

/-- The place of the next token, or the end of the text. -/
def nextPlace (sql : List Char) : List Token → Nat
  | t :: _ => t.start
  | [] => byteLength sql

/-- Reads items with commas between them. -/
def readList {α : Type} (item : List Token → Except Stop (α × List Token)) :
    Nat → List Token → Except Stop (List α × List Token)
  | 0, ts => .error (.here ts)
  | fuel + 1, ts => do
    let (a, rest) ← item ts
    match skipSymbol? "," rest with
    | some rest => do
      let (as, rest) ← readList item fuel rest
      .ok (a :: as, rest)
    | none => .ok ([a], rest)

/-- Reads items with commas between them, as many as there are tokens. -/
def readCommas {α : Type} (item : List Token → Except Stop (α × List Token)) (ts : List Token) :
    Except Stop (List α × List Token) :=
  readList item (ts.length + 1) ts

/-- Reads names in parentheses. -/
def readNames (ts : List Token) : Except Stop (List String × List Token) := do
  let rest ← expectSymbol "(" ts
  let (names, rest) ← readCommas readName rest
  let rest ← expectSymbol ")" rest
  .ok (names.map Token.unquoted, rest)

/-- Reads a name that an item is given, if one is there. -/
def readAlias (ts : List Token) : Except Stop (Option String × List Token) :=
  match skipWord? "AS" ts with
  | some rest => do
    let (name, rest) ← readName rest
    .ok (some name.unquoted, rest)
  | none =>
    match ts with
    | t :: rest => if t.isLooseName then .ok (some t.unquoted, rest) else .ok (none, ts)
    | [] => .ok (none, [])

/-- Reads a value and the name it is given. -/
def readValueOutput (sql : List Char) (ts : List Token) : Except Stop (Output × List Token) := do
  let (e, rest) ← readWhole ts
  let source := between sql (nextPlace sql ts) (nextPlace sql rest)
  let (name, rest) ← readAlias rest
  .ok (.value e name source, rest)

/-- Reads one output of a query. -/
def readOutput (sql : List Char) (ts : List Token) : Except Stop (Output × List Token) :=
  match ts with
  | t :: dot :: star :: rest =>
    if t.isSymbol "*" then .ok (.all, dot :: star :: rest)
    else if t.isName && t.kind != .string && dot.isSymbol "." && star.isSymbol "*" then
      .ok (.allOf t.unquoted, rest)
    else readValueOutput sql ts
  | t :: rest => if t.isSymbol "*" then .ok (.all, rest) else readValueOutput sql ts
  | [] => .error (.here [])

/-- Reads a table to read from. -/
def readTable (kind : JoinKind) (ts : List Token) : Except Stop (Source × List Token) := do
  let (name, rest) ← readName ts
  let (name, rest) ← match skipSymbol? "." rest with
    | some rest => readName rest
    | none => pure (name, rest)
  let (given, rest) ← readAlias rest
  let (on, rest) ← match skipWord? "ON" rest with
    | some rest => do
      let (e, rest) ← readWhole rest
      pure (some e, rest)
    | none => pure (none, rest)
  let (shared, rest) ← match skipWord? "USING" rest with
    | some rest => readNames rest
    | none => pure ([], rest)
  .ok (⟨kind, name.unquoted, given, on, shared⟩, rest)

/-- Reads the words of a join, if they are there. -/
def readJoin (ts : List Token) : Except Stop (Option JoinKind × List Token) :=
  match skipSymbol? "," ts with
  | some rest => .ok (some .inner, rest)
  | none =>
    match skipWord? "JOIN" ts with
    | some rest => .ok (some .inner, rest)
    | none =>
      match (skipWord? "INNER" ts).or (skipWord? "CROSS" ts) with
      | some rest => do
        let rest ← expectWord "JOIN" rest
        .ok (some .inner, rest)
      | none =>
        match skipWord? "LEFT" ts with
        | some rest => do
          let rest ← expectWord "JOIN" ((skipWord? "OUTER" rest).getD rest)
          .ok (some .left, rest)
        | none => .ok (none, ts)

/-- Reads the tables that join those read before. -/
def readJoined : Nat → List Token → Except Stop (List Source × List Token)
  | 0, ts => .error (.here ts)
  | fuel + 1, ts => do
    match ← readJoin ts with
    | (none, rest) => .ok ([], rest)
    | (some kind, rest) => do
      let (source, rest) ← readTable kind rest
      let (sources, rest) ← readJoined fuel rest
      .ok (source :: sources, rest)

/-- Reads a term to sort by. -/
def readOrderTerm (ts : List Token) : Except Stop (OrderTerm × List Token) := do
  let (e, rest) ← readWhole ts
  let descending := (skipWord? "DESC" rest).isSome
  .ok (⟨e, descending, nextPlace [] ts⟩, ((skipWord? "DESC" rest).or (skipWord? "ASC" rest)).getD rest)

/-- Reads a term to group by. -/
def readGroupTerm (ts : List Token) : Except Stop (OrderTerm × List Token) := do
  let (e, rest) ← readWhole ts
  .ok (⟨e, false, nextPlace [] ts⟩, rest)

/-- Reads a condition, if one is there. -/
def readCondition (ts : List Token) : Except Stop (Option Expr × List Token) :=
  match skipWord? "WHERE" ts with
  | some rest => do
    let (e, rest) ← readWhole rest
    .ok (some e, rest)
  | none => .ok (none, ts)

/-- Reads two keywords and what stands behind them, if they are there. -/
def readClause {α : Type} (first second : String)
    (item : List Token → Except Stop (α × List Token)) (ts : List Token) :
    Except Stop (List α × List Token) :=
  match skipWord? first ts with
  | some rest => do
    let rest ← expectWord second rest
    readCommas item rest
  | none => .ok ([], ts)

/-- Reads a query, behind its first keyword. -/
def readSelect (sql : List Char) (ts : List Token) : Except Stop (Select × List Token) := do
  let distinct := (skipWord? "DISTINCT" ts).isSome
  let ts := ((skipWord? "DISTINCT" ts).or (skipWord? "ALL" ts)).getD ts
  let (outputs, rest) ← readCommas (readOutput sql) ts
  let (sources, rest) ← match skipWord? "FROM" rest with
    | some rest => do
      let (source, rest) ← readTable .inner rest
      let (sources, rest) ← readJoined (rest.length + 1) rest
      pure (source :: sources, rest)
    | none => pure ([], rest)
  let (condition, rest) ← readCondition rest
  let (groupBy, rest) ← readClause "GROUP" "BY" readGroupTerm rest
  let (having, rest) ← match skipWord? "HAVING" rest with
    | some rest => do
      let (e, rest) ← readWhole rest
      pure (some e, rest)
    | none => pure (none, rest)
  let (orderBy, rest) ← readClause "ORDER" "BY" readOrderTerm rest
  match skipWord? "LIMIT" rest with
  | none =>
    .ok (⟨distinct, outputs, sources, condition, groupBy, having, orderBy, none, none⟩, rest)
  | some rest => do
    let (first, rest) ← readWhole rest
    let (limit, offset, rest) ← match skipWord? "OFFSET" rest with
      | some rest => do
        let (e, rest) ← readWhole rest
        pure (some first, some e, rest)
      | none =>
        match skipSymbol? "," rest with
        | some rest => do
          let (e, rest) ← readWhole rest
          pure (some e, some first, rest)
        | none => pure (some first, none, rest)
    .ok (⟨distinct, outputs, sources, condition, groupBy, having, orderBy, limit, offset⟩, rest)

/-- Reads what a change returns, if it returns something. -/
def readReturning (sql : List Char) (ts : List Token) :
    Except Stop (List Output × List Token) :=
  match skipWord? "RETURNING" ts with
  | some rest => readCommas (readOutput sql) rest
  | none => .ok ([], ts)

/-- Reads the values of one row. -/
def readRow (ts : List Token) : Except Stop (List Expr × List Token) := do
  let rest ← expectSymbol "(" ts
  let (row, rest) ← readExprs (exprFuel rest) rest
  let rest ← expectSymbol ")" rest
  .ok (row, rest)

/-- Reads an insertion, behind its first keyword. -/
def readInsert (sql : List Char) (ts : List Token) : Except Stop (Statement × List Token) := do
  let rest ← expectWord "INTO" ts
  let (table, rest) ← readName rest
  let (columns, rest) ← match skipSymbol? "(" rest with
    | some _ => do
      let (names, rest) ← readNames rest
      pure (some names, rest)
    | none => pure (none, rest)
  let (rows, rest) ← match skipWord? "DEFAULT" rest with
    | some rest => do
      let rest ← expectWord "VALUES" rest
      pure (NewRows.defaults, rest)
    | none => do
      let rest ← expectWord "VALUES" rest
      let (rows, rest) ← readCommas readRow rest
      pure (NewRows.values rows, rest)
  let (returning, rest) ← readReturning sql rest
  .ok (.insert table.unquoted columns rows returning, rest)

/-- Reads a new value for a column. -/
def readAssignment (ts : List Token) : Except Stop ((String × Expr) × List Token) := do
  let (name, rest) ← readName ts
  let rest ← expectSymbol "=" rest
  let (e, rest) ← readWhole rest
  .ok ((name.unquoted, e), rest)

/-- Reads a change of rows, behind its first keyword. -/
def readUpdate (sql : List Char) (ts : List Token) : Except Stop (Statement × List Token) := do
  let (table, rest) ← readName ts
  let rest ← expectWord "SET" rest
  let (assignments, rest) ← readCommas readAssignment rest
  let (condition, rest) ← readCondition rest
  let (returning, rest) ← readReturning sql rest
  .ok (.update table.unquoted assignments condition returning, rest)

/-- Reads a deletion, behind its first keyword. -/
def readDelete (sql : List Char) (ts : List Token) : Except Stop (Statement × List Token) := do
  let rest ← expectWord "FROM" ts
  let (table, rest) ← readName rest
  let (condition, rest) ← readCondition rest
  let (returning, rest) ← readReturning sql rest
  .ok (.delete table.unquoted condition returning, rest)

/-- Reads a reference action. -/
def readAction (ts : List Token) : Except Stop (ReferenceAction × List Token) :=
  match skipWord? "CASCADE" ts, skipWord? "RESTRICT" ts, skipWord? "SET" ts with
  | some rest, _, _ => .ok (.cascade, rest)
  | none, some rest, _ => .ok (.refuse, rest)
  | none, none, some rest =>
    match skipWord? "NULL" rest with
    | some rest => .ok (.setNull, rest)
    | none => do
      let rest ← expectWord "DEFAULT" rest
      .ok (.setDefault, rest)
  | none, none, none => do
    let rest ← expectWord "NO" ts
    let rest ← expectWord "ACTION" rest
    .ok (.refuse, rest)

/-- Reads what happens to referring rows. -/
def readActions : Nat → Reference → List Token → Except Stop (Reference × List Token)
  | 0, _, ts => .error (.here ts)
  | fuel + 1, reference, ts =>
    match skipWord? "ON" ts with
    | none => .ok (reference, ts)
    | some rest =>
      match skipWord? "DELETE" rest with
      | some rest => do
        let (action, rest) ← readAction rest
        readActions fuel { reference with onDelete := action } rest
      | none => do
        let rest ← expectWord "UPDATE" rest
        let (action, rest) ← readAction rest
        readActions fuel { reference with onUpdate := action } rest

/-- Reads a reference, behind its keyword. -/
def readReference (ts : List Token) : Except Stop (Reference × List Token) := do
  let (table, rest) ← readName ts
  let (columns, rest) ← match skipSymbol? "(" rest with
    | some _ => readNames rest
    | none => pure ([], rest)
  readActions (rest.length + 1) ⟨table.unquoted, columns, .refuse, .refuse⟩ rest

/-- Reads a condition in parentheses, with its text. -/
def readCheck (sql : List Char) (ts : List Token) :
    Except Stop ((String × Expr) × List Token) := do
  let inside ← expectSymbol "(" ts
  let (e, close) ← readWhole inside
  let rest ← expectSymbol ")" close
  .ok ((between sql (nextPlace sql ts + 1) (nextPlace sql close), e), rest)

/-- Reads a default value, behind its keyword, with its text. -/
def readDefault (sql : List Char) (ts : List Token) :
    Except Stop ((String × Expr) × List Token) :=
  match ts with
  | [] => .error (.here [])
  | t :: rest =>
    if t.isSymbol "(" then readCheck sql ts
    else if t.isSymbol "-" || t.isSymbol "+" then
      match rest with
      | [] => .error (.here [])
      | d :: rest => do
        let (e, _) ← readOperand 1 [d]
        let signed := if t.isSymbol "-" then Expr.unary .minus e else e
        .ok ((between sql t.start d.stop, signed), rest)
    else
      match t.kind with
      | .integer | .real | .string | .blob => do
        let (e, _) ← readOperand 1 [t]
        .ok ((t.text, e), rest)
      | .word =>
        if t.isWord "NULL" then .ok ((t.text, .literal .null), rest)
        else if t.isWord "TRUE" then .ok ((t.text, .literal (.integer 1)), rest)
        else if t.isWord "FALSE" then .ok ((t.text, .literal (.integer 0)), rest)
        else if isReserved t.text then .error (.here ts)
        else .ok ((t.text, .literal (.text t.unquoted)), rest)
      | .quotedName | .bracketedName => .ok ((t.text, .literal (.text t.unquoted)), rest)
      | _ => .error (.here ts)

/-- Reads one rule of a column, if one is there; `given` is the name that the rule was given. -/
def readColumnRule (sql : List Char) (given : Option String) (ts : List Token) :
    Except Stop (Option ColumnRule × List Token) :=
  match ts with
  | [] => .ok (none, [])
  | t :: rest =>
    if t.isWord "NULL" then .ok (some .nullable, rest)
    else if t.isWord "NOT" then do
      let rest ← expectWord "NULL" rest
      .ok (some .notNull, rest)
    else if t.isWord "PRIMARY" then do
      let rest ← expectWord "KEY" rest
      let descending := (skipWord? "DESC" rest).isSome
      let rest := ((skipWord? "DESC" rest).or (skipWord? "ASC" rest)).getD rest
      let counting := (skipWord? "AUTOINCREMENT" rest).isSome
      .ok (some (.primaryKey descending counting), (skipWord? "AUTOINCREMENT" rest).getD rest)
    else if t.isWord "UNIQUE" then .ok (some .unique, rest)
    else if t.isWord "CHECK" then do
      let ((rule, e), rest) ← readCheck sql rest
      .ok (some (.check (given.getD rule) e), rest)
    else if t.isWord "DEFAULT" then do
      let ((source, e), rest) ← readDefault sql rest
      .ok (some (.default source e), rest)
    else if t.isWord "REFERENCES" then do
      let (reference, rest) ← readReference rest
      .ok (some (.references reference), rest)
    else if t.isWord "COLLATE" then do
      let (name, rest) ← readName rest
      .ok (some (.collate name.unquoted), rest)
    else .ok (none, ts)

/-- Reads the name given to a rule, if one is there. -/
def readGiven (ts : List Token) : Except Stop (Option String × List Token) :=
  match skipWord? "CONSTRAINT" ts with
  | some rest => do
    let (name, rest) ← readName rest
    .ok (some name.unquoted, rest)
  | none => .ok (none, ts)

/-- Reads the rules of a column. -/
def readColumnRules (sql : List Char) : Nat → List Token →
    Except Stop (List ColumnRule × List Token)
  | 0, ts => .error (.here ts)
  | fuel + 1, ts => do
    let (given, rest) ← readGiven ts
    match ← readColumnRule sql given rest with
    | (some rule, rest) => do
      let (rules, rest) ← readColumnRules sql fuel rest
      .ok (rule :: rules, rest)
    | (none, rest) => .ok ([], rest)

/-- Reads the declaration of a column. -/
def readColumn (sql : List Char) (ts : List Token) : Except Stop (ColumnDecl × List Token) := do
  let (name, afterName) ← readName ts
  let (type, rest) ← readType afterName
  let declared := match type.getLast? with
    | some last => between sql (nextPlace sql afterName) last.stop
    | none => ""
  let (rules, rest) ← readColumnRules sql (rest.length + 1) rest
  .ok (⟨name.unquoted, declared, rules⟩, rest)

/-- Reads one column of a key, its order passed over. -/
def readKeyColumn (ts : List Token) : Except Stop (WrittenName × List Token) := do
  let (name, rest) ← readName ts
  .ok (⟨name.unquoted, name.text, name.start⟩, ((skipWord? "DESC" rest).or (skipWord? "ASC" rest)).getD rest)

/-- Reads the columns of a key. -/
def readKey (ts : List Token) : Except Stop ((List WrittenName × Bool) × List Token) := do
  let rest ← expectSymbol "(" ts
  let (names, rest) ← readCommas readKeyColumn rest
  let counting := (skipWord? "AUTOINCREMENT" rest).isSome
  let rest ← expectSymbol ")" ((skipWord? "AUTOINCREMENT" rest).getD rest)
  .ok ((names, counting), rest)

/-- Reads a rule of a table, if one is there. -/
def readTableRule (sql : List Char) (ts : List Token) :
    Except Stop (Option TableRule × List Token) := do
  let (given, rest) ← readGiven ts
  match rest with
  | [] => .ok (none, [])
  | t :: more =>
    if t.isWord "PRIMARY" then do
      let more ← expectWord "KEY" more
      let ((names, counting), more) ← readKey more
      .ok (some (.primaryKey names counting), more)
    else if t.isWord "UNIQUE" then do
      let ((names, _), more) ← readKey more
      .ok (some (.unique names), more)
    else if t.isWord "CHECK" then do
      let ((rule, e), more) ← readCheck sql more
      .ok (some (.check (given.getD rule) e), more)
    else if t.isWord "FOREIGN" then do
      let more ← expectWord "KEY" more
      let (names, more) ← readNames more
      let more ← expectWord "REFERENCES" more
      let (reference, more) ← readReference more
      .ok (some (.foreignKey names reference), more)
    else .ok (none, rest)

/-- Reads the rules of a table behind its columns, up to the closing parenthesis. -/
def readTableRules (sql : List Char) : Nat → List Token → Except Stop (List TableRule × List Token)
  | 0, ts => .error (.here ts)
  | fuel + 1, ts => do
    match ← readTableRule sql ts with
    | (some rule, rest) =>
      match skipSymbol? ")" rest with
      | some rest => .ok ([rule], rest)
      | none => do
        let (rules, rest) ← readTableRules sql fuel ((skipSymbol? "," rest).getD rest)
        .ok (rule :: rules, rest)
    | (none, rest) => .error (.here rest)

/-- Whether a rule of a table starts. -/
def startsTableRule : List Token → Bool
  | [] => false
  | t :: _ => ["CONSTRAINT", "PRIMARY", "UNIQUE", "CHECK", "FOREIGN"].any t.isWord

/-- Reads the columns of a table and the rules behind them, up to the closing parenthesis. -/
def readBody (sql : List Char) : Nat → List Token →
    Except Stop ((List ColumnDecl × List TableRule) × List Token)
  | 0, ts => .error (.here ts)
  | fuel + 1, ts => do
    let (column, rest) ← readColumn sql ts
    match skipSymbol? ")" rest with
    | some rest => .ok (([column], []), rest)
    | none => do
      let rest ← expectSymbol "," rest
      if startsTableRule rest then do
        let (rules, rest) ← readTableRules sql fuel rest
        .ok (([column], rules), rest)
      else do
        let ((columns, rules), rest) ← readBody sql fuel rest
        .ok ((column :: columns, rules), rest)

/-- Reads the words that allow a name to exist already. -/
def readIfMissing (ts : List Token) : Except Stop (Bool × List Token) :=
  match skipWord? "IF" ts with
  | some rest => do
    let rest ← expectWord "NOT" rest
    let rest ← expectWord "EXISTS" rest
    .ok (true, rest)
  | none => .ok (false, ts)

/-- Reads the creation of a table or view, behind its first keyword. -/
def readCreate (sql : List Char) (ts : List Token) : Except Stop (Statement × List Token) := do
  match skipWord? "TABLE" ts with
  | some rest => do
    let (ifMissing, rest) ← readIfMissing rest
    let (name, rest) ← readName rest
    let rest ← expectSymbol "(" rest
    let ((columns, rules), rest) ← readBody sql (rest.length + 1) rest
    .ok (.createTable ⟨name.unquoted, name.text, name.start⟩ ifMissing columns rules, rest)
  | none => do
    let rest ← expectWord "VIEW" ts
    let (ifMissing, rest) ← readIfMissing rest
    let (name, rest) ← readName rest
    let (columns, rest) ← match skipSymbol? "(" rest with
      | some _ => readNames rest
      | none => pure ([], rest)
    let rest ← expectWord "AS" rest
    let rest ← expectWord "SELECT" rest
    let (query, rest) ← readSelect sql rest
    .ok (.createView ⟨name.unquoted, name.text, name.start⟩ ifMissing columns query, rest)

/-- Reads the removal of a table or view, behind its first keyword. -/
def readDrop (ts : List Token) : Except Stop (Statement × List Token) := do
  let isView := (skipWord? "VIEW" ts).isSome
  let rest ← expectWord (if isView then "VIEW" else "TABLE") ts
  let (ifPresent, rest) ← match skipWord? "IF" rest with
    | some rest => do
      let rest ← expectWord "EXISTS" rest
      pure (true, rest)
    | none => pure (false, rest)
  let (name, rest) ← readName rest
  .ok (.drop isView ifPresent name.unquoted, rest)

/-- Reads a setting, behind its first keyword. -/
def readPragma (ts : List Token) : Except Stop (Statement × List Token) := do
  let (name, rest) ← readName ts
  match skipSymbol? "=" rest, skipSymbol? "(" rest with
  | some (t :: rest), _ => .ok (.pragma name.unquoted (some t.unquoted), rest)
  | none, some (t :: rest) => do
    let rest ← expectSymbol ")" rest
    .ok (.pragma name.unquoted (some t.unquoted), rest)
  | some [], _ | none, some [] => .error (.here [])
  | none, none => .ok (.pragma name.unquoted none, rest)

/-- Passes over the word for a transaction. -/
def skipTransaction (ts : List Token) : List Token :=
  (skipWord? "TRANSACTION" ts).getD ts

/-- Reads a statement. -/
def readStatement (sql : List Char) (ts : List Token) :
    Except Stop (Statement × List Token) :=
  match ts with
  | [] => .error (.here [])
  | t :: rest =>
    if t.kind != .word then .error (.here ts)
    else
      match upperAscii t.text with
      | "SELECT" => do
        let (query, rest) ← readSelect sql rest
        .ok (.select query, rest)
      | "INSERT" => readInsert sql rest
      | "UPDATE" => readUpdate sql rest
      | "DELETE" => readDelete sql rest
      | "CREATE" => readCreate sql rest
      | "DROP" => readDrop rest
      | "PRAGMA" => readPragma rest
      | "BEGIN" =>
        let kind := (skipWord? "DEFERRED" rest).or
          ((skipWord? "IMMEDIATE" rest).or (skipWord? "EXCLUSIVE" rest))
        .ok (.begin, skipTransaction (kind.getD rest))
      | "COMMIT" | "END" => .ok (.commit, skipTransaction rest)
      | "ROLLBACK" => .ok (.rollback, skipTransaction rest)
      | _ => .error (.here ts)

/-- The first statement of a text. -/
structure Parsed where
  /-- The statement, none when the text has none. -/
  statement : Option Statement
  /-- The greatest number of a parameter of the statement. -/
  parameters : Nat
  /-- The text of the statement. -/
  source : String
  /-- The text behind the statement. -/
  rest : List Char

/-- The fault that stopped a reading. -/
def Stop.toFault : Stop → Fault
  | .here [] => Problem.incomplete.bare
  | .here (t :: _) =>
    if t.kind = .unreadable then (Problem.unreadable t.text).at t.start
    else (Problem.unexpected t.text).at t.start
  | .fault f => f

/-- Reads the first statement of a text. -/
def parse (sql : String) : Except Fault Parsed :=
  let chars := sql.toList
  let ts := Token.numberSlots ⟨0, []⟩ ((Token.scan sql).dropWhile fun t => t.isSymbol ";")
  match ts with
  | [] => .ok ⟨none, 0, "", []⟩
  | _ :: _ =>
    match readStatement chars ts with
    | .error stop => .error stop.toFault
    | .ok (statement, rest) =>
      let parameters := (ts.take (ts.length - rest.length)).foldl (fun n (t : Token) => max n t.slot) 0
      match rest with
      | [] => .ok ⟨some statement, parameters, sql, []⟩
      | t :: _ =>
        if t.isSymbol ";" then
          let rest := dropBytes t.stop chars
          let source := String.ofList (chars.take (chars.length - rest.length))
          .ok ⟨some statement, parameters, source, rest⟩
        else .error (Stop.here rest).toFault

end Registrar.Sql
