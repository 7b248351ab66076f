import Registrar.Bootstrap
import Registrar.Scope

/-!
# The command line

One command makes the first contents of a store.  Its options choose a configuration, the path of
the store and the password of the administrator.
-/

namespace Registrar

/-- The options of the command that makes a store. -/
structure StoreOptions where
  /-- The path of a configuration. -/
  config : Option String
  /-- The path of the store. -/
  database : Option String
  /-- The password of the administrator. -/
  password : Option String

/-- What the program is asked to do. -/
inductive Command where
  | help
  | makeStore (options : StoreOptions)

namespace Command

/-- Whether an argument cannot be the value of an option. -/
def looksLikeOption (argument : String) : Bool :=
  match argument.toList with
  | '-' :: _ :: _ => true
  | _ => false

/-- Gives an option its value; an option is given once only, and a path is not empty. -/
def setOption (options : StoreOptions) (name value : String) : Option StoreOptions :=
  match name with
  | "--config" =>
    if options.config.isSome || value.isEmpty then none
    else some { options with config := some value }
  | "--database" =>
    if options.database.isSome || value.isEmpty then none
    else some { options with database := some value }
  | "--admin-password" =>
    if options.password.isSome then none else some { options with password := some value }
  | _ => none

/-- The names of the options. -/
def optionNames : List String :=
  ["--config", "--database", "--admin-password"]

/-- The name and the value of an option that are written as one argument. -/
def attached? (argument : String) : Option (String × String) :=
  let name := argument.toList.takeWhile (· != '=')
  match argument.toList.drop name.length with
  | '=' :: value => some (String.ofList name, String.ofList value)
  | _ => none

/-- Whether an argument asks for help. -/
def asksForHelp (argument : String) : Bool :=
  argument == "--help" || "-h".toList.isPrefixOf argument.toList

/-- Reads the options of the command that makes a store. -/
def readOptions (options : StoreOptions) : List String → Option Command
  | [] => some (.makeStore options)
  | ["--"] => some (.makeStore options)
  | [argument] =>
    if asksForHelp argument then some .help
    else do
      let (name, value) ← attached? argument
      let options ← setOption options name value
      some (.makeStore options)
  | argument :: value :: rest =>
    if asksForHelp argument then some .help
    else if optionNames.contains argument then
      if looksLikeOption value then none
      else do
        let options ← setOption options argument value
        readOptions options rest
    else do
      let (name, given) ← attached? argument
      let options ← setOption options name given
      readOptions options (value :: rest)

/-- Reads the arguments of the program. -/
def read? : List String → Option Command
  | [] => none
  | argument :: rest =>
    if asksForHelp argument || argument == "--version" || "-V".toList.isPrefixOf argument.toList then
      some .help
    else if argument == "help" then
      match rest with
      | [] | ["help"] | ["init-db"] => some .help
      | _ => none
    else if argument == "init-db" then readOptions ⟨none, none, none⟩ rest
    else none

/-- How the program is used. -/
def usage : String :=
  "Usage: init-db [--config <CONFIG>] [--database <DATABASE>] " ++
    "[--admin-password <ADMIN_PASSWORD>]\n"

end Command

/-- Where the program runs. -/
structure Surroundings where
  /-- The directory at hand. -/
  directory : List String
  /-- The directory for data, if there is one. -/
  dataDirectory : Option String
  disk : Disk

/-- What a run of the program leaves. -/
structure RunResult where
  disk : Disk
  /-- What the program prints, or why it fails; no reason is known for arguments that mean
  nothing. -/
  printed : Except (Option Failure) String

namespace RunResult

/-- Whether the run succeeded. -/
def succeeded (result : RunResult) : Bool :=
  match result.printed with
  | .ok _ => true
  | .error _ => false

end RunResult

namespace Surroundings

/-- The configuration that the options choose. -/
def configuration (s : Surroundings) (options : StoreOptions) : Except Failure Configuration := do
  let c ← match options.config with
    | none => pure (Configuration.standard s.dataDirectory)
    | some path => do
      let bytes ← s.disk.bytes (Disk.locate s.directory path)
      Configuration.load s.dataDirectory bytes
  .ok { c with path := options.database.getD c.path }

/-- Makes a store as the options say.  Yields the disk, and what is printed. -/
def makeStore (s : Surroundings) (hasher : Hasher) (options : StoreOptions) :
    Disk × Except Failure String :=
  match s.configuration options with
  | .error f => (s.disk, .error f)
  | .ok c =>
    match c.logLevel with
    | .error f => (s.disk, .error f)
    | .ok _ =>
      let (result, after) := (Scope.new s.directory c.path).run s.disk
        (Bootstrap.run hasher (options.password.getD "admin"))
      let (_, disk) := after.scope.release after.disk
      match result with
      | .error f => (disk, .error f)
      | .ok () =>
        (disk, .ok ("Initialized the database at " ++ c.path ++ " (admin login: " ++
          Bootstrap.administrator ++ ")\n"))

/-- Runs the program. -/
def run (s : Surroundings) (hasher : Hasher) (arguments : List String) : RunResult :=
  match Command.read? arguments with
  | none => ⟨s.disk, .error none⟩
  | some .help => ⟨s.disk, .ok Command.usage⟩
  | some (.makeStore options) =>
    match s.makeStore hasher options with
    | (disk, .ok text) => ⟨disk, .ok text⟩
    | (disk, .error f) => ⟨disk, .error (some f)⟩

/-- The users of the store under a path, by their ids; none if there is no such store. -/
def users? (s : Surroundings) (path : String) : Option (List User) :=
  match s.disk.find? (Disk.locate s.directory path) with
  | some (.store _) =>
    match ((Scope.new s.directory path).run s.disk Accounts.allUsers).1 with
    | .ok users => some users
    | .error _ => none
  | _ => none

end Surroundings

end Registrar
