import Registrar.Call
import Registrar.Username

/-!
# Accounts

Registration and login of users.  Passwords are kept as digests that a hasher makes and checks.
Registering looks whether the name is free, hashes the password and inserts the user; the store
itself refuses a second user of the same name, which is reported in the same way.
-/

namespace Registrar

open Registrar.Text

/-- Makes digests of passwords and checks passwords against them.  Either may fail, with a
message. -/
structure Hasher where
  hash : String → Except String String
  verify : String → String → Except String Bool

/-- A registered user, or one to be registered, who has no id yet. -/
structure User where
  id : Option Int64
  name : String
  digest : String
deriving DecidableEq

namespace User

/-- The declaration of users as records. -/
def recordType : RecordType where
  table := "users"
  fields := [⟨"user_id", .integer, true⟩, ⟨"user_val", .text, false⟩, ⟨"password", .text, false⟩]
  rename := [("users_id", "user_id"), ("users_val", "user_val")]

/-- The id as a value. -/
def idValue (user : User) : Value :=
  match user.id with
  | some n => .integer n
  | none => .null

/-- A user as a record. -/
def record (user : User) : Record :=
  ⟨recordType, [user.idValue, .text user.name, .text user.digest]⟩

/-- The user that a record of users tells of. -/
def ofRecord? (record : Record) : Option User :=
  match record.values with
  | [.integer n, .text name, .text digest] => some ⟨some n, name, digest⟩
  | [.null, .text name, .text digest] => some ⟨none, name, digest⟩
  | _ => none

/-- The user that a row tells of. -/
def ofRow (row : Row) : Except Failure User := do
  let record ← recordType.ofRow row
  match ofRecord? record with
  | some user => .ok user
  | none => .error (.rejected (.missingField recordType.table "user_id"))

/-- A user who has not been registered yet. -/
def new (name digest : String) : User :=
  ⟨none, name, digest⟩

end User

namespace Accounts

/-- The question for the user of an id. -/
def questionForId (id : Int64) : Question :=
  { Question.ofTable User.recordType.table with filter := some (.scalar (.integer id)) }

/-- The question for the user of a name. -/
def questionForName (name : String) : Question :=
  { Question.ofTable User.recordType.table with filter := some (.scalar (.text name)) }

/-- The question whether a name is taken. -/
def questionForTaken (name : String) : Question :=
  { questionForName name with columns := .list ["users_val"] }

/-- The question for all names. -/
def questionForNames : Question :=
  { Question.ofTable User.recordType.table with
    columns := .list ["users_val"], orderBy := ["users_id"] }

/-- The user of an id. -/
def userById (id : Int64) : Call User := do
  Call.lift (User.ofRow (← Call.selectOne (questionForId id)))

/-- The user of a name in its normal form. -/
def userOfNormal (name : String) : Call User := do
  match ← Call.select (questionForName name) with
  | row :: _ => Call.lift (User.ofRow row)
  | [] => throw (.noUser name)

/-- The user of a name. -/
def userByName (name : String) : Call User := do
  userOfNormal (← Call.lift (normalizeUsername name))

/-- Whether a name in its normal form is taken. -/
def isTaken (name : String) : Call Bool := do
  return !(← Call.select (questionForTaken name)).isEmpty

/-- Whether a name is taken. -/
def usernameExists (name : String) : Call Bool := do
  isTaken (← Call.lift (normalizeUsername name))

/-- The text of a value. -/
def textOf (value : Value) : Except Failure String :=
  match FieldKind.text.read? value with
  | some (.text s) => .ok s
  | _ => .error (.rejected (.wrongKind .text value))

/-- The texts of some values, up to the first that has none. -/
def textsOf : List Value → Except Failure (List String)
  | [] => .ok []
  | value :: values => do
    let text ← textOf value
    let texts ← textsOf values
    .ok (text :: texts)

/-- All user names, in the order of registration. -/
def usernames : Call (List String) := do
  let rows ← Call.select questionForNames
  Call.lift (textsOf (rows.flatMap Row.values))

/-- The users that some rows tell of, up to the first row that tells of none. -/
def usersOf : List Row → Except Failure (List User)
  | [] => .ok []
  | row :: rows => do
    let user ← User.ofRow row
    let users ← usersOf rows
    .ok (user :: users)

/-- All users, in the order of registration. -/
def allUsers : Call (List User) := do
  let rows ← Call.select { Question.ofTable User.recordType.table with orderBy := ["users_id"] }
  Call.lift (usersOf rows)

/-- The digest of a password. -/
def hash (hasher : Hasher) (password : String) : Except Failure String :=
  match hasher.hash password with
  | .ok digest => .ok digest
  | .error message => .error (.credential message)

/-- What registering needs of a name and a password: the normal form of the one, and the other
without the blanks around it. -/
def candidate (name password : String) : Except Failure (String × String) := do
  let name ← normalizeUsername name
  if (trim password).isEmpty then .error (.rejected .noPassword) else .ok (name, trim password)

/-- A second user of the same name is reported as such, however it was found out. -/
def refusal (name : String) (f : Failure) : Failure :=
  if f.isRepeated then .userExists name else f

/-- Inserts a user, and yields the user with the new id. -/
def enroll (user : User) : Call User := do
  let id ← tryCatch (Call.insert User.recordType.table user.record.columnValues)
    fun f => throw (refusal user.name f)
  return { user with id := some id }

/-- Registers a user. -/
def register (hasher : Hasher) (name password : String) : Call User := do
  let (name, password) ← Call.lift (candidate name password)
  if ← isTaken name then throw (.userExists name)
  else do
    let digest ← Call.lift (hash hasher password)
    enroll (User.new name digest)

/-- Whether a password belongs to a digest. -/
def verify (hasher : Hasher) (digest password : String) : Except Failure Bool :=
  match hasher.verify digest password with
  | .ok right => .ok right
  | .error message => .error (.credential message)

/-- The user of a name, if the password is right. -/
def authenticate (hasher : Hasher) (name password : String) : Call User := do
  let user ← userByName name
  if ← Call.lift (verify hasher user.digest (trim password)) then return user
  else throw (.rejected .wrongPassword)

end Accounts

end Registrar
