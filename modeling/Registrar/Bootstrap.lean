import Registrar.Accounts

/-!
# First contents of a store

A store starts with the table of users and one user, the administrator, whose password the caller
chooses.  Whatever the table of users held before is lost.
-/

namespace Registrar

namespace Bootstrap

/-- The script that makes the table of users anew, with an administrator who has no password
yet. -/
def schema : String :=
  "DROP TABLE IF EXISTS users;\n\n" ++
  "CREATE TABLE users (\n" ++
  "    users_id INTEGER PRIMARY KEY AUTOINCREMENT,\n" ++
  "    users_val TEXT UNIQUE NOT NULL,\n" ++
  "    password TEXT NOT NULL\n" ++
  ");\n\n" ++
  "-- the password is set once the table is there\n" ++
  "INSERT INTO users (users_val, password) VALUES ('admin', '');\n"

/-- The login of the administrator. -/
def administrator : String := "admin"

/-- Makes the table of users anew, and gives the administrator a password. -/
def run (hasher : Hasher) (password : String) : Call Unit := do
  Call.script schema
  let digest ← Call.lift (Accounts.hash hasher password)
  discard (Call.update User.recordType.table (Entries.ofList [("password", .text digest)])
    (.scalar (.integer 1)))

end Bootstrap

end Registrar
