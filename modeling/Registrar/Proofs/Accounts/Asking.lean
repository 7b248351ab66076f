import Registrar.Proofs.Accounts.Names
import Registrar.Proofs.Login

/-!
# Questions about users

The questions that logging in, registering and listing ask: for the user of a name, whether a name is
taken, for the user of an id, and for all names.  Each is read from its text and planned once, and
changes nothing; its answer is said for whatever accounts the store has.
-/

namespace Registrar

open Registrar.Text Registrar.Sql Registrar.Sql.Token Registrar.Sql.Database Call

section Texts

/-- The text of the question whether a name is taken. -/
def takenText : String :=
  "SELECT users_val FROM users WHERE users_val = ?"

/-- The text of the question for the user of an id. -/
def idText : String :=
  "SELECT * FROM users WHERE users_id = ?"

/-- The text of the question for all names. -/
def namesText : String :=
  "SELECT users_val FROM users ORDER BY users_id"

/-- The text of a question about one table. -/
def singleText (columns table : String) (filter : Option Clause) (orderBy : List String) : String :=
  "SELECT " ++ columns ++ " FROM " ++ table ++ "" ++
    (filter.elim "" fun clause => " WHERE " ++ clause.text) ++
    (if orderBy.isEmpty then "" else " ORDER BY " ++ ", ".intercalate orderBy)

/-- A question about one table is asked by its text. -/
theorem statement_single {question : Question} {table columns : String} {filter : Option Clause}
    {orderBy : List String} (named : identifier question.table = .ok table)
    (shows : question.columns.text = .ok columns) (alone : question.joins = [])
    (meant : question.filterClause = .ok filter)
    (ordered : identifiers question.orderBy = .ok orderBy) :
    question.statement = .ok ⟨singleText columns table filter orderBy,
      filter.elim [] Clause.parameters⟩ := by
  have joined : (Joins.start table).addAll question.joins = .ok (Joins.start table) := by
    rw [alone]
    rfl
  have empty : (Joins.start table).isEmpty = true := rfl
  simp only [Question.statement, named, shows, joined, meant, ordered, empty, if_true, bind,
    Except.bind]
  cases filter <;> rfl

/-- The name of the table of users is an identifier. -/
theorem identifier_users : identifier "users" = .ok "users" :=
  rfl

variable {name : String}

/-- A name as the filter of a question about users asks for the row of the name. -/
theorem filterClause_username (valid : isUsername name = true) (question : Question)
    (users : question.table = "users") (filter : question.filter = some (.scalar (.text name))) :
    question.filterClause = .ok (some ⟨"users" ++ "_val = ?", [.text name]⟩) := by
  have meant : (Condition.scalar (.text name)).clause "users" =
      .ok ⟨"users" ++ "_val = ?", [.text name]⟩ := ofScalar_username valid "users"
  have worded : isBlankText ("users" ++ "_val = ?") = false := rfl
  have wordy : (Clause.mk ("users" ++ "_val = ?") [.text name]).isEmpty = false := worded
  simp only [Question.filterClause, filter, users, meant, wordy, bind, Except.bind,
    Bool.false_eq_true, if_false]

/-- The question for the user of a name is asked by its text. -/
theorem statement_questionForName (valid : isUsername name = true) :
    (Accounts.questionForName name).statement = .ok ⟨nameText, [.text name]⟩ := by
  have filter := filterClause_username valid (Accounts.questionForName name) rfl rfl
  have text : singleText "*" "users" (some ⟨"users" ++ "_val = ?", [.text name]⟩) [] = nameText :=
    rfl
  have shows : Columns.all.text = .ok "*" := rfl
  rw [← text]
  exact statement_single identifier_users shows rfl filter rfl

/-- The question whether a name is taken is asked by its text. -/
theorem statement_questionForTaken (valid : isUsername name = true) :
    (Accounts.questionForTaken name).statement = .ok ⟨takenText, [.text name]⟩ := by
  have filter := filterClause_username valid (Accounts.questionForTaken name) rfl rfl
  have text : singleText "users_val" "users" (some ⟨"users" ++ "_val = ?", [.text name]⟩) [] =
      takenText := rfl
  have shows : (Columns.list ["users_val"]).text = .ok "users_val" := rfl
  rw [← text]
  exact statement_single identifier_users shows rfl filter rfl

/-- The question for the user of an id is asked by its text. -/
theorem statement_questionForId (id : Int64) :
    (Accounts.questionForId id).statement = .ok ⟨idText, [.integer id]⟩ := by
  have worded : isBlankText ("users" ++ "_id = ?") = false := rfl
  have wordy : (Clause.mk ("users" ++ "_id = ?") [.integer id]).isEmpty = false := worded
  have filter : (Accounts.questionForId id).filterClause =
      .ok (some ⟨"users" ++ "_id = ?", [.integer id]⟩) := by
    show Except.ok (if (Clause.mk ("users" ++ "_id = ?") [.integer id]).isEmpty then none
      else some (Clause.mk ("users" ++ "_id = ?") [.integer id])) = _
    rw [wordy]
    rfl
  have text : singleText "*" "users" (some ⟨"users" ++ "_id = ?", [.integer id]⟩) [] = idText := rfl
  have shows : Columns.all.text = .ok "*" := rfl
  rw [← text]
  exact statement_single identifier_users shows rfl filter rfl

/-- The question for all names is asked by its text. -/
theorem statement_questionForNames :
    Accounts.questionForNames.statement = .ok ⟨namesText, []⟩ := by
  have text : singleText "users_val" "users" none ["users_id"] = namesText := rfl
  rw [← text]
  exact statement_single identifier_users rfl rfl rfl rfl

end Texts

section Reading

/-- The question whether a name is taken, as it is read. -/
def takenQuery : Select :=
  ⟨false, [.value (.column none "users_val" false 7) none "users_val"], [onlySource "users"],
    some (.binary .eq (.column none "users_val" false 34) (.parameter 1)), [], none, [], none, none⟩

/-- The question for the user of an id, as it is read. -/
def idQuery : Select :=
  ⟨false, [.all], [onlySource "users"],
    some (.binary .eq (.column none "users_id" false 26) (.parameter 1)), [], none, [], none, none⟩

/-- The question for all names, as it is read. -/
def namesQuery : Select :=
  ⟨false, [.value (.column none "users_val" false 7) none "users_val"], [onlySource "users"],
    none, [], none, [⟨.column none "users_id" false 37, false, 37⟩], none, none⟩

/-- The question whether a name is taken is read from its text. -/
theorem parse_takenText : parse takenText = .ok ⟨some (.select takenQuery), 1, takenText, []⟩ := by
  have tokens : numbered takenText = [wordAt "SELECT" 0, wordAt "users_val" 7, wordAt "FROM" 17,
      wordAt "users" 22, wordAt "WHERE" 28, wordAt "users_val" 34, symbolAt "=" 44, markAt 46 1] :=
    rfl
  exact parse_whole tokens rfl rfl

/-- The question for the user of an id is read from its text. -/
theorem parse_idText : parse idText = .ok ⟨some (.select idQuery), 1, idText, []⟩ := by
  have tokens : numbered idText = [wordAt "SELECT" 0, symbolAt "*" 7, wordAt "FROM" 9,
      wordAt "users" 14, wordAt "WHERE" 20, wordAt "users_id" 26, symbolAt "=" 35, markAt 37 1] :=
    rfl
  exact parse_whole tokens rfl rfl

/-- The question for all names is read from its text. -/
theorem parse_namesText : parse namesText = .ok ⟨some (.select namesQuery), 0, namesText, []⟩ := by
  have tokens : numbered namesText = [wordAt "SELECT" 0, wordAt "users_val" 7, wordAt "FROM" 17,
      wordAt "users" 22, wordAt "ORDER" 28, wordAt "BY" 34, wordAt "users_id" 37] :=
    rfl
  exact parse_whole tokens rfl rfl

end Reading

section Planning

variable {db : Database} {rows : List Sql.Row}

/-- The plan of the question whether a name is taken. -/
def takenPlan (rows : List Sql.Row) : Plan :=
  { namePlan rows with shown := [⟨"users_val", .slot 1 .text .binary, some "TEXT", false⟩] }

/-- The plan of the question for the user of an id. -/
def idPlan (rows : List Sql.Row) : Plan :=
  { namePlan rows with condition := some (.binary .eq (.slot 0 .integer .binary) (.parameter 1)) }

/-- The plan of the question for all names. -/
def namesPlan (rows : List Sql.Row) : Plan :=
  { takenPlan rows with condition := none, orderBy := [(.slot 0 .integer .binary, false)] }

/-- The question whether a name is taken is planned over the rows of the users. -/
theorem plan_takenQuery (has : db.HasUsers rows) : db.plan takenQuery = .ok (takenPlan rows) := by
  rw [plan_single has.find? rfl]
  rfl

/-- The question for the user of an id is planned over the rows of the users. -/
theorem plan_idQuery (has : db.HasUsers rows) : db.plan idQuery = .ok (idPlan rows) := by
  rw [plan_single has.find? rfl]
  rfl

/-- The question for all names is planned over the rows of the users. -/
theorem plan_namesQuery (has : db.HasUsers rows) : db.plan namesQuery = .ok (namesPlan rows) := by
  rw [plan_single has.find? rfl]
  rfl

end Planning

section Running

variable {accounts : List Account} {env : Env}

/-- The answer to a question for names. -/
def namesAnswer (names : List String) : Answer :=
  ⟨[("users_val", some "TEXT")], names.map fun name => [.text name]⟩

/-- Asking whether a name is taken answers with the users of this name. -/
theorem run_takenPlan {name : String} (given : env.parameters = [.text name]) :
    (takenPlan (accounts.map Account.row)).run env =
      .ok (namesAnswer ((accounts.filter fun account => account.name == name).map
        Account.name)) := by
  have first : env.parameters[0]? = some (.text name) := by rw [given]; rfl
  have filtered : (takenPlan (accounts.map Account.row)).chosen env
      ((accounts.map Account.row).map Row.slots) =
        .ok ((accounts.filter fun account => account.name == name).map fun account =>
          account.row.slots) := by
    rw [List.map_map]
    exact filterM_map_eq_ok fun account _ => holds_text rfl first
  have answer := run_plain (f := fun cells => [(cells[1]?).getD .null]) (g := fun _ => [])
    ⟨rfl, rfl, rfl, rfl, rfl⟩ (combine_single rfl) filtered (fun _ _ => rfl) fun _ _ => rfl
  rw [answer, namesAnswer, List.map_map]
  show Except.ok (Answer.mk _ (List.map _ (List.map _ _))) = _
  rw [List.map_map]
  rfl

/-- Asking for an id answers with the user of this id. -/
theorem run_idPlan {id : Int64} (given : env.parameters = [.integer id]) :
    (idPlan (accounts.map Account.row)).run env =
      .ok (usersAnswer (accounts.filter fun account => account.id == id)) := by
  have first : env.parameters[0]? = some (.integer id) := by rw [given]; rfl
  have filtered : (idPlan (accounts.map Account.row)).chosen env
      ((accounts.map Account.row).map Row.slots) =
        .ok ((accounts.filter fun account => account.id == id).map fun account =>
          account.row.slots) := by
    rw [List.map_map]
    exact filterM_map_eq_ok fun account _ => holds_integer rfl first
  have answer := run_plain (f := fun cells => cells.take 3) (g := fun _ => [])
    ⟨rfl, rfl, rfl, rfl, rfl⟩ (combine_single rfl) filtered ?_ fun _ _ => rfl
  · rw [answer]
    show Except.ok (Answer.mk _ (List.map _ (List.map _ _))) = _
    rw [List.map_map]
    rfl
  · intro cells among
    obtain ⟨account, -, rfl⟩ := List.mem_map.1 among
    rfl

/-- Asking for all names visits the users in the order of their names, since there is a key that holds
what is asked for, and sorts them by their ids again. -/
theorem run_namesPlan (increasing : accounts.Pairwise fun a b => a.id.toInt < b.id.toInt) :
    (namesPlan (accounts.map Account.row)).run env =
      .ok (namesAnswer (accounts.map Account.name)) := by
  let rows := accounts.map Account.row
  let visited := sortBy ((usersTable rows).keyCells [1] ∘ Account.row) accounts
  let key : Account → List SortCell := fun account => [⟨.integer account.id, .binary, false⟩]
  have visits : (namesPlan rows).rowsOf env (usersTable rows).relation =
      visited.map fun account => account.row.slots := by
    show (sortBy ((usersTable rows).keyCells [1]) (accounts.map Account.row)).map Row.slots = _
    rw [sortBy_map, List.map_map]
    rfl
  have ranked : ∀ a b : Account, compareKeys (key a) (key b) = compare a.id.toInt b.id.toInt := by
    intro a b
    show (compare a.id.toInt b.id.toInt).then .eq = _
    cases compare a.id.toInt b.id.toInt <;> rfl
  have again : sortBy key visited = accounts :=
    sortBy_eq_of_perm ranked (sortBy_perm _ _) increasing
  have answer := run_plain (f := fun cells => [(cells[1]?).getD .null])
    (g := fun cells => [(cells[0]?).getD .null]) ⟨rfl, rfl, rfl, rfl, rfl⟩ (combine_single visits) rfl
    (fun _ _ => rfl) fun _ _ => rfl
  rw [answer, sortBy_map]
  show Except.ok (Answer.mk _ (List.map _ (List.map _ (sortBy key visited)))) = _
  rw [again, List.map_map, namesAnswer, List.map_map]
  rfl

end Running

section Outcomes

variable {session : Session} {accounts : List Account} {name : String}

/-- A name is taken if an account has it. -/
theorem outcome_isTaken (has : session.store.database.HasUsers (accounts.map Account.row))
    (valid : isUsername name = true) :
    (Accounts.isTaken name).outcome session =
      (.ok (accounts.any fun account => account.name == name),
        session.afterAsking ⟨takenText, [.text name]⟩) := by
  have selected := outcome_select_of_run (statement_questionForTaken valid) parse_takenText
    (plan_takenQuery has) rfl (run_takenPlan rfl)
  have any : (accounts.any fun account => account.name == name) =
      !(accounts.filter fun account => account.name == name).isEmpty := by
    rw [Bool.eq_iff_iff]
    simp
  rw [Accounts.isTaken, outcome_bind_of_ok selected, any, Row.ofAnswer, namesAnswer]
  simp only [List.isEmpty_map]
  rfl

/-- The user of an id is the one who has it. -/
theorem outcome_userById (has : session.store.database.HasUsers (accounts.map Account.row))
    (id : Int64) :
    (Accounts.userById id).outcome session =
      (match accounts.find? fun account => account.id == id with
        | some account => .ok account.user
        | none => .error (.noRow "users"), session.afterAsking ⟨idText, [.integer id]⟩) := by
  have selected := outcome_select_of_run (statement_questionForId id) parse_idText
    (plan_idQuery has) rfl (run_idPlan rfl)
  rw [ofAnswer_users] at selected
  rw [Accounts.userById, Call.selectOne, outcome_bind, outcome_bind_of_ok selected,
    ← List.head?_filter]
  cases accounts.filter fun account => account.id == id with
  | nil => rfl
  | cons account others => exact outcome_lift _ _

/-- The values of the rows of an answer for names are the names. -/
theorem values_namesAnswer (names : List String) :
    (Row.ofAnswer (namesAnswer names)).flatMap Row.values = names.map .text := by
  induction names with
  | nil => rfl
  | cons name names ih => exact congrArg (Value.text name :: ·) ih

/-- The texts of texts are these. -/
theorem textsOf_texts (texts : List String) : Accounts.textsOf (texts.map .text) = .ok texts := by
  induction texts with
  | nil => rfl
  | cons text texts ih =>
    show (Accounts.textsOf (texts.map .text) >>= fun more => Except.ok (text :: more)) = _
    rw [ih]
    rfl

/-- The names are those of the accounts, in the order of the ids. -/
theorem outcome_usernames (has : session.store.database.HasUsers (accounts.map Account.row))
    (increasing : accounts.Pairwise fun a b => a.id.toInt < b.id.toInt) :
    Accounts.usernames.outcome session =
      (.ok (accounts.map Account.name), session.afterAsking ⟨namesText, []⟩) := by
  have selected := outcome_select_of_run statement_questionForNames parse_namesText
    (plan_namesQuery has) rfl (run_namesPlan increasing)
  rw [Accounts.usernames, outcome_bind_of_ok selected, outcome_lift, values_namesAnswer,
    textsOf_texts]

end Outcomes

end Registrar
