import Registrar.Number.IntegerText

/-!
# Problems with statements

Why a statement was refused, before it ran or while it ran.  `Problem.message` is the wording of
each cause; an `Error` adds the statement and the place in it, for the causes that have one.
-/

namespace Registrar.Sql

open Registrar.Number

/-- A rule that the content of a table has to keep. -/
inductive Constraint where
  /-- No two rows agree in the columns; `primary` when they are the primary key. -/
  | unique (columns : List String) (primary : Bool)
  | notNull (column : String)
  | check (rule : String)
  | foreignKey
deriving DecidableEq

/-- What is wrong with a statement. -/
inductive Problem where
  | unexpected (token : String)
  | incomplete
  | unreadable (token : String)
  | parameterRange
  | unknownTable (name : String)
  | unknownColumn (name : String)
  | ambiguousColumn (name : String)
  | unknownFunction (name : String)
  | unknownCollation (name : String)
  | unshared (column : String)
  | wrongArguments (function : String)
  | misplacedAggregate (function : String)
  | misplacedAlias (name : String)
  | unknownInsertColumn (table column : String)
  | valueCount (table : String) (columns values : Nat)
  | columnCount (values columns : Nat)
  | unevenValues
  | orderRange (term : Nat) (clause : String) (columns : Nat)
  | groupless
  | nothingToSelect
  | joinedTables (most : Nat)
  | alreadyExists (kind name : String)
  | reservedName (name : String)
  | repeatedColumn (name : String)
  | secondPrimaryKey (table : String)
  | strayAutoincrement
  | variableDefault (column : String)
  | columnReference (column table : String)
  | unknownView (name : String)
  | unknownReferenceColumn (column : String)
  | referenceCount
  | viewIsReadOnly (name : String)
  | protectedTable (name : String)
  | undroppable (name : String)
  | dropKind (kind name : String)
  | nestedTransaction
  | nothingToCommit
  | nothingToRollBack
  | foreignKeyMismatch (child parent : String)
  | wholeOverflow
  | badPattern
  | kindMismatch
  | endlessActions
  | full
  | broken (rule : Constraint)
  | unsupported (what : String)
deriving DecidableEq

/-- The ending of an ordinal number. -/
def ordinalEnding (n : Nat) : String :=
  if n % 100 = 11 ∨ n % 100 = 12 ∨ n % 100 = 13 then "th"
  else if n % 10 = 1 then "st"
  else if n % 10 = 2 then "nd"
  else if n % 10 = 3 then "rd"
  else "th"

/-- The wording of a broken rule. -/
def Constraint.message : Constraint → String
  | .unique columns _ => "UNIQUE constraint failed: " ++ ", ".intercalate columns
  | .notNull column => "NOT NULL constraint failed: " ++ column
  | .check rule => "CHECK constraint failed: " ++ rule
  | .foreignKey => "FOREIGN KEY constraint failed"

/-- The wording of a problem. -/
def Problem.message : Problem → String
  | .unexpected token => "near \"" ++ token ++ "\": syntax error"
  | .incomplete => "incomplete input"
  | .unreadable token => "unrecognized token: \"" ++ token ++ "\""
  | .parameterRange => "variable number must be between ?1 and ?32766"
  | .unknownTable name => "no such table: " ++ name
  | .unknownColumn name => "no such column: " ++ name
  | .ambiguousColumn name => "ambiguous column name: " ++ name
  | .unknownFunction name => "no such function: " ++ name
  | .unknownCollation name => "no such collation sequence: " ++ name
  | .unshared column => "cannot join using column " ++ column ++
      " - column not present in both tables"
  | .wrongArguments function => "wrong number of arguments to function " ++ function ++ "()"
  | .misplacedAggregate function => "misuse of aggregate function " ++ function ++ "()"
  | .misplacedAlias name => "misuse of aliased aggregate " ++ name
  | .unknownInsertColumn table column =>
    "table " ++ table ++ " has no column named " ++ column
  | .valueCount table columns values =>
    "table " ++ table ++ " has " ++ intText columns ++ " columns but " ++ intText values ++
      " values were supplied"
  | .columnCount values columns =>
    intText values ++ " values for " ++ intText columns ++ " columns"
  | .unevenValues => "all VALUES must have the same number of terms"
  | .orderRange term clause columns =>
    intText term ++ ordinalEnding term ++ " " ++ clause ++
      " BY term out of range - should be between 1 and " ++ intText columns
  | .groupless => "HAVING clause on a non-aggregate query"
  | .nothingToSelect => "no tables specified"
  | .joinedTables most => "at most " ++ intText most ++ " tables in a join"
  | .alreadyExists kind name => kind ++ " " ++ name ++ " already exists"
  | .reservedName name => "object name reserved for internal use: " ++ name
  | .repeatedColumn name => "duplicate column name: " ++ name
  | .secondPrimaryKey table => "table \"" ++ table ++ "\" has more than one primary key"
  | .strayAutoincrement => "AUTOINCREMENT is only allowed on an INTEGER PRIMARY KEY"
  | .variableDefault column => "default value of column [" ++ column ++ "] is not constant"
  | .columnReference column table =>
    "foreign key on " ++ column ++ " should reference only one column of table " ++ table
  | .unknownView name => "no such view: " ++ name
  | .unknownReferenceColumn column =>
    "unknown column \"" ++ column ++ "\" in foreign key definition"
  | .referenceCount =>
    "number of columns in foreign key does not match the number of columns in the referenced table"
  | .viewIsReadOnly name => "cannot modify " ++ name ++ " because it is a view"
  | .protectedTable name => "table " ++ name ++ " may not be modified"
  | .undroppable name => "table " ++ name ++ " may not be dropped"
  | .dropKind kind name => "use DROP " ++ kind ++ " to delete " ++
      (if kind = "VIEW" then "view " else "table ") ++ name
  | .nestedTransaction => "cannot start a transaction within a transaction"
  | .nothingToCommit => "cannot commit - no transaction is active"
  | .nothingToRollBack => "cannot rollback - no transaction is active"
  | .foreignKeyMismatch child parent =>
    "foreign key mismatch - \"" ++ child ++ "\" referencing \"" ++ parent ++ "\""
  | .wholeOverflow => "integer overflow"
  | .badPattern => "ESCAPE expression must be a single character"
  | .kindMismatch => "datatype mismatch"
  | .endlessActions => "too many levels of trigger recursion"
  | .full => "database or disk is full"
  | .broken rule => rule.message
  | .unsupported what => what

/-- A problem and the place of its cause, where that is known. -/
structure Fault where
  problem : Problem
  place : Option Nat
deriving DecidableEq

/-- A problem without a place. -/
def Problem.bare (p : Problem) : Fault :=
  ⟨p, none⟩

/-- A problem at a place. -/
def Problem.at (p : Problem) (place : Nat) : Fault :=
  ⟨p, some place⟩

/-- A problem with a statement. -/
structure Error where
  problem : Problem
  place : Option Nat
  statement : String
deriving DecidableEq

/-- The wording of a problem with a statement; a known place is given with the statement. -/
def Error.message (e : Error) : String :=
  match e.place with
  | some place => e.problem.message ++ " in " ++ e.statement ++ " at offset " ++ intText place
  | none => e.problem.message

/-- A problem, seen in its statement. -/
def Fault.seenIn (f : Fault) (statement : String) : Error :=
  ⟨f.problem, f.place, statement⟩

/-- Whether a problem is a second row with the same values in columns that are not the primary
key. -/
def Problem.isRepeated : Problem → Bool
  | .broken (.unique _ primary) => !primary
  | _ => false

end Registrar.Sql
