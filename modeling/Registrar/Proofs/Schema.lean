import Registrar.Bootstrap
import Registrar.Proofs.Sql.Written
import Registrar.Proofs.Users

/-!
# Making the table of users

The script that makes the table of users anew has three statements: the old table is dropped if there
is one, the table is created, and the administrator is inserted.  Each is read from the text of the
script; the lemmas below say what each does to any store, so that the script as a whole stops in one
of three places.
-/

namespace Registrar

open Registrar.Text Registrar.Sql Registrar.Sql.Token

namespace Bootstrap

/-- The statement that drops the old table. -/
def dropping : String :=
  "DROP TABLE IF EXISTS users;"

/-- The statement that inserts the administrator. -/
def seeding : String :=
  "\n\n-- the password is set once the table is there\n" ++
  "INSERT INTO users (users_val, password) VALUES ('admin', '');"

/-- The script is its three statements. -/
theorem schema_eq :
    schema.toList =
      dropping.toList ++ (usersDeclaration.toList ++ (seeding.toList ++ "\n".toList)) := by
  have parts : schema = dropping ++ (usersDeclaration ++ (seeding ++ "\n")) := by decide +kernel
  rw [parts, String.toList_append, String.toList_append, String.toList_append]

/-- The tokens of the first statement between its first word and its end. -/
def dropTokens : List Token :=
  [wordAt "TABLE" 5, wordAt "IF" 11, wordAt "EXISTS" 14, wordAt "users" 21]

/-- The tokens of the second statement between its first word and its end. -/
def createTokens : List Token :=
  [wordAt "TABLE" 9, wordAt "users" 15, symbolAt "(" 21,
    wordAt "users_id" 27, wordAt "INTEGER" 36, wordAt "PRIMARY" 44, wordAt "KEY" 52,
    wordAt "AUTOINCREMENT" 56, symbolAt "," 69,
    wordAt "users_val" 75, wordAt "TEXT" 85, wordAt "UNIQUE" 90, wordAt "NOT" 97, wordAt "NULL" 101,
    symbolAt "," 105, wordAt "password" 111, wordAt "TEXT" 120, wordAt "NOT" 125, wordAt "NULL" 129, symbolAt ")" 134]

/-- The tokens of the third statement between its first word and its end. -/
def insertTokens : List Token :=
  [wordAt "INTO" 56, wordAt "users" 61, symbolAt "(" 67, wordAt "users_val" 68, symbolAt "," 77,
    wordAt "password" 79, symbolAt ")" 87, wordAt "VALUES" 89,
    symbolAt "(" 96, stringAt "'admin'" 97, symbolAt "," 104, stringAt "''" 106, symbolAt ")" 108]

/-- The first statement drops the old table if there is one. -/
def dropStatement : Sql.Statement :=
  .drop false true "users"

/-- The second statement creates the table. -/
def createStatement : Sql.Statement :=
  .createTable ⟨"users", "users", 15⟩ false
    [⟨"users_id", "INTEGER", [.primaryKey false true]⟩, ⟨"users_val", "TEXT", [.unique, .notNull]⟩,
      ⟨"password", "TEXT", [.notNull]⟩] []

/-- The third statement inserts the administrator. -/
def insertStatement : Sql.Statement :=
  .insert "users" (some ["users_val", "password"])
    (.values [[.literal (.text "admin"), .literal (.text "")]]) []

section Reading

variable {sql : String} {rest : List Char}

/-- The first statement is read, whatever stands behind it. -/
theorem parse_dropping (text : sql.toList = dropping.toList ++ rest) (breaks : Breaks rest) :
    parse sql = .ok ⟨some dropStatement, 0, dropping, rest⟩ := by
  have facts : isClosed dropping = true ∧ byteLength dropping.toList = 27 ∧
      numbered dropping = wordAt "DROP" 0 :: (dropTokens ++ [symbolAt ";" 26]) :=
    ⟨rfl, rfl, rfl⟩
  obtain ⟨closed, length, tokens⟩ := facts
  have reads : ∀ cs more,
      readStatement cs (wordAt "DROP" 0 :: (dropTokens ++ symbolAt ";" 26 :: more)) =
        .ok (dropStatement, symbolAt ";" 26 :: more) :=
    fun _ _ => rfl
  exact parse_first closed tokens rfl rfl length.symm text breaks (reads _)

/-- The text of the second statement begins with a break, is closed and has its tokens and types at
their places. -/
theorem usersDeclaration_text :
    usersDeclaration.toList.head? = some '\n' ∧ isClosed usersDeclaration = true ∧
      byteLength usersDeclaration.toList = 136 ∧
      numbered usersDeclaration = wordAt "CREATE" 2 :: (createTokens ++ [symbolAt ";" 135]) ∧
      (usersDeclaration.toList.all fun c => c.utf8Size == 1) = true ∧
      between usersDeclaration.toList 36 43 = "INTEGER" ∧
      between usersDeclaration.toList 85 89 = "TEXT" ∧
      between usersDeclaration.toList 120 124 = "TEXT" := by
  decide +kernel

/-- The text of the third statement begins with a break, is closed and has its tokens. -/
theorem seeding_text :
    seeding.toList.head? = some '\n' ∧ isClosed seeding = true ∧ byteLength seeding.toList = 110 ∧
      numbered seeding = wordAt "INSERT" 49 :: (insertTokens ++ [symbolAt ";" 109]) :=
  ⟨rfl, rfl, rfl, rfl⟩

/-- The second statement is read, whatever stands behind it. -/
theorem parse_usersDeclaration (text : sql.toList = usersDeclaration.toList ++ rest)
    (breaks : Breaks rest) :
    parse sql = .ok ⟨some createStatement, 0, usersDeclaration, rest⟩ := by
  obtain ⟨-, closed, length, tokens, narrow, id, name, password⟩ := usersDeclaration_text
  have ascii : ∀ c ∈ usersDeclaration.toList, c.utf8Size = 1 := by simpa using narrow
  -- the types are texts between places, which do not depend on what stands behind the statement
  have reads : ∀ cs more,
      readStatement cs (wordAt "CREATE" 2 :: (createTokens ++ symbolAt ";" 135 :: more)) =
        .ok (.createTable ⟨"users", "users", 15⟩ false
          [⟨"users_id", between cs 36 43, [.primaryKey false true]⟩,
            ⟨"users_val", between cs 85 89, [.unique, .notNull]⟩,
            ⟨"password", between cs 120 124, [.notNull]⟩] [], symbolAt ";" 135 :: more) :=
    fun _ _ => rfl
  have types {start stop : Nat} (order : start ≤ stop) (within : stop ≤ 136) :
      between (usersDeclaration.toList ++ rest) start stop =
        between usersDeclaration.toList start stop :=
    between_append ascii order (Nat.le_trans within (Nat.le_of_eq length.symm)) rest
  have declared := reads (usersDeclaration.toList ++ rest)
  rw [types (by decide) (by decide), types (by decide) (by decide), types (by decide) (by decide),
    id, name, password] at declared
  exact parse_first closed tokens rfl rfl length.symm text breaks declared

/-- The third statement is read, whatever stands behind it. -/
theorem parse_seeding (text : sql.toList = seeding.toList ++ rest) (breaks : Breaks rest) :
    parse sql = .ok ⟨some insertStatement, 0, seeding, rest⟩ := by
  obtain ⟨-, closed, length, tokens⟩ := seeding_text
  have reads : ∀ cs more,
      readStatement cs (wordAt "INSERT" 49 :: (insertTokens ++ symbolAt ";" 109 :: more)) =
        .ok (insertStatement, symbolAt ";" 109 :: more) :=
    fun _ _ => rfl
  exact parse_first closed tokens rfl rfl length.symm text breaks (reads _)

end Reading

end Bootstrap

namespace Sql.Store

/-- Carries out a statement without parameters.  Yields the store after it. -/
def carry (s : Store) (source : String) (statement : Sql.Statement) : Except Fault Store :=
  match s.prepare source statement with
  | .error fault => .error fault
  | .ok action =>
    match s.run [] action with
    | .error problem => .error problem.bare
    | .ok (_, after) => .ok after

/-- A script carries out its first statement, and goes on behind it unless that fails. -/
theorem runScript_of_parse {sql source : String} {statement : Sql.Statement} {rest : List Char}
    (read : parse sql = .ok ⟨some statement, 0, source, rest⟩) (more : rest ≠ []) (fuel : Nat)
    (s : Store) :
    runScript (fuel + 1) s sql =
      match s.carry source statement with
      | .error fault => (s, some (fault.seenIn sql))
      | .ok after => runScript fuel after (String.ofList rest) := by
  have unfinished : (String.ofList rest).isEmpty = false := by
    simpa [String.isEmpty_eq_false_iff] using more
  rw [runScript, ready, read, carry]
  dsimp only
  cases s.prepare source statement with
  | error fault => rfl
  | ok action =>
    simp only [runReady]
    cases s.run [] action with
    | error problem => rfl
    | ok result => simp [unfinished]

/-- A script ends where a statement fails. -/
theorem runScript_of_error {sql source : String} {statement : Sql.Statement} {rest : List Char}
    (read : parse sql = .ok ⟨some statement, 0, source, rest⟩) (more : rest ≠ []) (fuel : Nat)
    {s : Store} {fault : Fault} (failed : s.carry source statement = .error fault) :
    runScript (fuel + 1) s sql = (s, some (fault.seenIn sql)) := by
  rw [runScript_of_parse read more, failed]

/-- A script goes on behind a statement that succeeds. -/
theorem runScript_of_ok {sql source : String} {statement : Sql.Statement} {rest : List Char}
    (read : parse sql = .ok ⟨some statement, 0, source, rest⟩) (more : rest ≠ []) (fuel : Nat)
    {s after : Store} (done : s.carry source statement = .ok after) :
    runScript (fuel + 1) s sql = runScript fuel after (String.ofList rest) := by
  rw [runScript_of_parse read more, done]

/-- A script without statements does nothing. -/
theorem runScript_of_blank {sql : String} {parameters : Nat} {source : String} {rest : List Char}
    (read : parse sql = .ok ⟨none, parameters, source, rest⟩) (fuel : Nat) (s : Store) :
    runScript fuel s sql = (s, none) := by
  cases fuel with
  | zero => rfl
  | succ fuel => simp only [runScript, ready, read]

end Sql.Store

namespace Bootstrap

/-- What begins with the end of a line breaks off what is before it, and is not empty. -/
theorem breaks_of_head? {cs rest behind : List Char} (first : cs.head? = some '\n')
    (text : rest = cs ++ behind) : Breaks rest ∧ rest ≠ [] := by
  cases cs with
  | nil => cases first
  | cons c cs =>
    obtain rfl := Option.some.inj first
    rw [text]
    exact ⟨(by decide : '\n' ∈ breakers), nofun⟩

/-- The statements of the script are read one after another. -/
theorem reads_of_texts {sql : String} {rest₁ rest₂ : List Char}
    (first : sql.toList = dropping.toList ++ rest₁) (second : rest₁ = usersDeclaration.toList ++ rest₂)
    (third : rest₂ = seeding.toList ++ ['\n']) :
    (parse sql = .ok ⟨some dropStatement, 0, dropping, rest₁⟩ ∧ rest₁ ≠ []) ∧
      (parse (String.ofList rest₁) = .ok ⟨some createStatement, 0, usersDeclaration, rest₂⟩ ∧
        rest₂ ≠ []) ∧
      parse (String.ofList rest₂) = .ok ⟨some insertStatement, 0, seeding, ['\n']⟩ := by
  obtain ⟨breaks₁, left₁⟩ := breaks_of_head? usersDeclaration_text.1 second
  obtain ⟨breaks₂, left₂⟩ := breaks_of_head? seeding_text.1 third
  rw [← String.toList_ofList (l := rest₁)] at second
  rw [← String.toList_ofList (l := rest₂)] at third
  exact ⟨⟨parse_dropping first breaks₁, left₁⟩, ⟨parse_usersDeclaration second breaks₂, left₂⟩,
    parse_seeding third (by decide : '\n' ∈ breakers)⟩

/-- The script stops at the first of its statements that fails. -/
theorem script_of_texts {sql : String} {rest₁ rest₂ : List Char}
    (first : sql.toList = dropping.toList ++ rest₁) (second : rest₁ = usersDeclaration.toList ++ rest₂)
    (third : rest₂ = seeding.toList ++ ['\n']) (s : Store) :
    (∃ fault, s.carry dropping dropStatement = .error fault ∧
      s.script sql = (s, some (fault.seenIn sql))) ∨
    ∃ cleared, s.carry dropping dropStatement = .ok cleared ∧
      ((∃ fault, cleared.carry usersDeclaration createStatement = .error fault ∧
        s.script sql = (cleared, some (fault.seenIn (String.ofList rest₁)))) ∨
      ∃ created, cleared.carry usersDeclaration createStatement = .ok created ∧
        ((∃ fault, created.carry seeding insertStatement = .error fault ∧
          s.script sql = (created, some (fault.seenIn (String.ofList rest₂)))) ∨
        ∃ seeded, created.carry seeding insertStatement = .ok seeded ∧
          s.script sql = (seeded, none))) := by
  have blank : parse (String.ofList ['\n']) = .ok ⟨none, 0, "", []⟩ := rfl
  obtain ⟨fuel, enough⟩ : ∃ fuel, sql.length = fuel + 3 := by
    have long : 3 ≤ sql.toList.length := by
      have least : 3 ≤ dropping.toList.length := by decide
      rw [first, List.length_append]
      omega
    rw [String.length_toList] at long
    exact ⟨_, (Nat.sub_add_cancel long).symm⟩
  obtain ⟨⟨reads₁, left₁⟩, ⟨reads₂, left₂⟩, reads₃⟩ := reads_of_texts first second third
  have left₃ : ['\n'] ≠ [] := List.cons_ne_nil _ _
  rw [Store.script, enough]
  cases dropped : s.carry dropping dropStatement with
  | error fault => exact .inl ⟨fault, rfl, Store.runScript_of_error reads₁ left₁ _ dropped⟩
  | ok cleared =>
    rw [Store.runScript_of_ok reads₁ left₁ _ dropped]
    refine .inr ⟨cleared, rfl, ?_⟩
    cases declared : cleared.carry usersDeclaration createStatement with
    | error fault => exact .inl ⟨fault, rfl, Store.runScript_of_error reads₂ left₂ _ declared⟩
    | ok created =>
      rw [Store.runScript_of_ok reads₂ left₂ _ declared]
      refine .inr ⟨created, rfl, ?_⟩
      cases inserted : created.carry seeding insertStatement with
      | error fault => exact .inl ⟨fault, rfl, Store.runScript_of_error reads₃ left₃ _ inserted⟩
      | ok seeded =>
        rw [Store.runScript_of_ok reads₃ left₃ _ inserted]
        exact .inr ⟨seeded, rfl, Store.runScript_of_blank blank _ _⟩

end Bootstrap

end Registrar
