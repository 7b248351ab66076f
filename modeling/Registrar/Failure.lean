import Registrar.Condition
import Registrar.Field
import Registrar.Sql.Problem

/-!
# Failures

Why a call failed, by cause.  `Failure.kind` sorts the causes into the categories that a caller
tells apart, and `Failure.message` is the wording of each.
-/

namespace Registrar

open Registrar.Text Registrar.Number

/-- Why an argument was refused before the store was asked. -/
inductive Rejection where
  | identifier (name : String)
  | noColumns
  /-- Tables were named without the columns to join them by. -/
  | joinWithoutKey (tables : List String)
  /-- A bare value that is neither a whole number nor text. -/
  | bareValue (value : Value)
  /-- The value of a column is no scalar. -/
  | nestedValue (column : String)
  /-- A column or an operator is no text. -/
  | noName (found : Condition)
  | listLength (length : Nat)
  /-- An operator other than membership with a list. -/
  | listOperand (operator column : String) (length : Nat)
  | missingColumn (column table : String)
  | emptyUpdate (table : String)
  | unguardedUpdate (table : String)
  | unconditionalDelete (table : String)
  | unguardedDelete (table : String)
  | unknownField (table field : String)
  | missingField (table field : String)
  | wrongKind (wanted : FieldKind) (found : Value)
  | username (name : String)
  | noPassword
  | wrongPassword

/-- The wording of a refusal. -/
def Rejection.message : Rejection → String
  | .identifier name => "`" ++ name ++ "` is not a valid identifier"
  | .noColumns => "column specification is empty"
  | .joinWithoutKey tables => "explicit join key required for " ++ ", ".intercalate tables
  | .bareValue value => "unsupported scalar condition: " ++ value.message
  | .nestedValue column => "value for `" ++ column ++ "` must be a scalar"
  | .noName found => "expected a column name or operator, found " ++ found.message
  | .listLength length =>
    "list condition must have 1, 2 or 3 elements, found " ++ intText length
  | .listOperand operator column length =>
    "`" ++ operator ++ "` compares `" ++ column ++ "` with a list of " ++ intText length ++
      " values; use IN"
  | .missingColumn column table =>
    "missing value for required column `" ++ column ++ "` of `" ++ table ++ "`"
  | .emptyUpdate table => "update of `" ++ table ++ "` has no values"
  | .unguardedUpdate table => "update of `" ++ table ++ "` requires a non-empty condition"
  | .unconditionalDelete table => "delete from `" ++ table ++ "` requires a condition"
  | .unguardedDelete table => "delete from `" ++ table ++ "` requires a non-empty condition"
  | .unknownField table field => "`" ++ table ++ "` record has no field `" ++ field ++ "`"
  | .missingField table field =>
    "`" ++ table ++ "` record is missing required field `" ++ field ++ "`"
  | .wrongKind wanted found =>
    let shown := match wanted, found with
      | .integer, .text s => quoted s
      | _, value => value.message
    "expected " ++ wanted.word ++ ", found " ++ shown
  | .username name => "'" ++ name ++ "' is not a valid username"
  | .noPassword => "must include password"
  | .wrongPassword => "password is incorrect"

/-- Why the store failed. -/
inductive StorageFault where
  /-- The store refused a statement. -/
  | statement (e : Sql.Error)
  | parameterCount (given needed : Nat)
  /-- A change answered rows. -/
  | returnedRows
  /-- A list among the values of parameters. -/
  | unboundList
  /-- A text without a statement was run. -/
  | noStatement
  | cannotOpen (path : String)
  | notDatabase

/-- The wording of a failure of the store. -/
def StorageFault.message : StorageFault → String
  | .statement e => e.message
  | .parameterCount given needed =>
    "Wrong number of parameters passed to query. Got " ++ intText given ++ ", needed " ++
      intText needed
  | .returnedRows => "Execute returned results - did you mean to call query?"
  | .unboundList => "Validation error: a list value must be expanded before binding"
  | .noStatement => "not an error"
  | .cannotOpen path => "unable to open database file: " ++ path
  | .notDatabase => "file is not a database"

/-- Whether the store refused a second row with the same values in a unique key. -/
def StorageFault.isRepeated : StorageFault → Bool
  | .statement e => e.problem.isRepeated
  | _ => false

/-- What is wrong with a configuration. -/
inductive ConfigFault where
  /-- The text is no configuration. -/
  | unreadable
  | level (name : String)

/-- The wording of what is wrong with a configuration. -/
def ConfigFault.message : ConfigFault → String
  | .unreadable => "the text is no configuration"
  | .level name =>
    "invalid log level `" ++ name ++ "`: error parsing level: expected one of \"error\", " ++
      "\"warn\", \"info\", \"debug\", \"trace\", or a number 1-5"

/-- Why a call failed. -/
inductive Failure where
  | rejected (cause : Rejection)
  | noTable (name : String)
  | noRow (table : String)
  | noUser (name : String)
  | userExists (name : String)
  | storage (cause : StorageFault)
  | config (cause : ConfigFault)
  /-- A file or directory could not be used. -/
  | files
  /-- A password could not be hashed or checked. -/
  | credential (message : String)

/-- The categories of failures. -/
inductive FailureKind where
  | validation
  | notFound
  | duplicate
  | storage
  | config
  | files
  | credential
deriving DecidableEq

/-- The category of a failure. -/
def Failure.kind : Failure → FailureKind
  | .rejected _ => .validation
  | .noTable _ | .noRow _ | .noUser _ => .notFound
  | .userExists _ => .duplicate
  | .storage _ => .storage
  | .config _ => .config
  | .files => .files
  | .credential _ => .credential

/-- The words in front of the messages of a category. -/
def FailureKind.heading : FailureKind → String
  | .validation => "Validation error: "
  | .notFound => "Not found: "
  | .duplicate => "Duplicate: "
  | .storage => "Storage error: "
  | .config => "Configuration error: "
  | .files => "I/O error: "
  | .credential => "Credential error: "

/-- What a failure says behind its heading. -/
def Failure.detail : Failure → String
  | .rejected cause => cause.message
  | .noTable name => "table `" ++ name ++ "`"
  | .noRow table => "no matching row in `" ++ table ++ "`"
  | .noUser name => "user '" ++ name ++ "' doesn't exist"
  | .userExists name => "user '" ++ name ++ "' already exists"
  | .storage cause => cause.message
  | .config cause => cause.message
  | .files => "a file or directory cannot be used"
  | .credential message => message

/-- The wording of a failure. -/
def Failure.message (f : Failure) : String :=
  f.kind.heading ++ f.detail

/-- Whether a failure is a second row with the same values in a unique key. -/
def Failure.isRepeated : Failure → Bool
  | .storage cause => cause.isRepeated
  | _ => false

end Registrar
