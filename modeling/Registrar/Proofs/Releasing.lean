import Registrar.Scope
import Registrar.Proofs.Bootstrap
import Registrar.Proofs.Forgetting

/-!
# Releasing a scope

A store that is kept on the disk answers the same whether or not its connection is closed in between,
as long as no transaction is open then and nothing that is asked reads what the connection remembers of
earlier changes.  Two desks that differ in such a break are followed side by side: as long as one of
them is closed, its disk holds the tables that the other one's connection holds, and once it is open
again the two stores are alike.
-/

namespace Registrar

open Registrar.Sql (Store Database quietText quietScript)
open Registrar.Call (Unchanged Forgets)

/-! ### Sessions -/

/-- What a caller asks of an open store. -/
inductive Ask where
  | script (text : String)
  | bootstrap (password : String)
  | describe (table : String)
  | tableNames
  | tableMap
  | rowCount (kept : KeptTable)
  | query (statement : Statement)
  | select (question : Question)
  | selectOne (question : Question)
  | selectAs (type : RecordType) (question : Question)
  | insert (table : String) (values : Entries Value)
  | insertAs (type : RecordType) (table : String) (values : Entries Value)
  | update (table : String) (values : Entries Value) (condition : Condition)
  | delete (table : String) (condition : Option Condition)
  | register (name password : String)
  | authenticate (name password : String)
  | userById (id : Int64)
  | userByName (name : String)
  | usernameExists (name : String)
  | usernames
  | allUsers

/-- What a caller is told. -/
inductive Reply where
  | done
  | table (info : TableInfo)
  | names (names : List String)
  | tables (tables : List (String × TableInfo))
  | counted (n : Nat) (kept : KeptTable)
  | rows (rows : List Row)
  | row (row : Row)
  | records (records : List Record)
  | id (id : Int64)
  | changed (n : Nat)
  | user (user : User)
  | users (users : List User)
  | answer (yes : Bool)

/-- The call that answers. -/
def Ask.call (hasher : Hasher) : Ask → Call Reply
  | .script text => (fun _ => .done) <$> Call.script text
  | .bootstrap password => (fun _ => .done) <$> Bootstrap.run hasher password
  | .describe table => .table <$> Call.describe table
  | .tableNames => .names <$> Call.tableNames
  | .tableMap => .tables <$> Call.tableMap
  | .rowCount kept => (fun counted => .counted counted.1 counted.2) <$> kept.rowCount
  | .query statement => .rows <$> Call.query statement
  | .select question => .rows <$> Call.select question
  | .selectOne question => .row <$> Call.selectOne question
  | .selectAs type question => do
    let rows ← Call.select question
    .records <$> Call.lift (type.ofRows rows)
  | .insert table values => .id <$> Call.insert table values
  | .insertAs type table values => .id <$> Call.insertAs type table values
  | .update table values condition => .changed <$> Call.update table values condition
  | .delete table condition => .changed <$> Call.delete table condition
  | .register name password => .user <$> Accounts.register hasher name password
  | .authenticate name password => .user <$> Accounts.authenticate hasher name password
  | .userById id => .user <$> Accounts.userById id
  | .userByName name => .user <$> Accounts.userByName name
  | .usernameExists name => .answer <$> Accounts.usernameExists name
  | .usernames => .names <$> Accounts.usernames
  | .allUsers => .users <$> Accounts.allUsers

/-- Whether what is asked is quiet as far as it is not logged: scripts and counts of rows are not. -/
def Ask.quiet : Ask → Bool
  | .script text => quietScript text
  | .rowCount kept => quietText (Forgets.counting kept.info.name).text
  | _ => true

/-- What is asked forgets, if it is quiet. -/
theorem Ask.forgets (hasher : Hasher) {ask : Ask} (quiet : ask.quiet = true) :
    Forgets (ask.call hasher) := by
  cases ask with
  | script text => exact (Forgets.script quiet).mapped _
  | bootstrap password => exact (Forgets.bootstrap hasher password).mapped _
  | describe table => exact (Forgets.describe table).mapped _
  | tableNames => exact Forgets.tableNames.mapped _
  | tableMap => exact Forgets.tableMap.mapped _
  | rowCount kept =>
    refine Forgets.mapped ?_ _
    unfold KeptTable.rowCount
    split
    · exact Forgets.known _
    · exact (Forgets.countRows quiet).bind fun _ => Forgets.known _
  | query statement => exact (Forgets.query statement).mapped _
  | select question => exact (Forgets.select question).mapped _
  | selectOne question => exact (Forgets.selectOne question).mapped _
  | selectAs type question =>
    exact (Forgets.select question).bind fun _ => (Forgets.lift _).mapped _
  | insert table values => exact (Forgets.insert table values).mapped _
  | insertAs type table values => exact (Forgets.insertAs type table values).mapped _
  | update table values condition => exact (Forgets.update table values condition).mapped _
  | delete table condition => exact (Forgets.delete table condition).mapped _
  | register name password => exact (Forgets.register hasher name password).mapped _
  | authenticate name password => exact (Forgets.authenticate hasher name password).mapped _
  | userById id => exact (Forgets.userById id).mapped _
  | userByName name => exact (Forgets.userByName name).mapped _
  | usernameExists name => exact (Forgets.usernameExists name).mapped _
  | usernames => exact Forgets.usernames.mapped _
  | allUsers => exact Forgets.allUsers.mapped _

/-- A scope in a caller's hands, and the disk that it is on. -/
structure Desk where
  scope : Scope
  disk : Disk

/-- What a caller does with a scope: it is looked at, its connection is opened and closed, it is
replaced by a scope of the same store, or something is asked of its store. -/
inductive Step where
  | look
  | acquire
  | release
  | renew
  | ask (asked : Ask)

/-- Whether what a step asks is quiet as far as it is not logged. -/
def Step.quiet : Step → Bool
  | .ask asked => asked.quiet
  | _ => true

/-- What a caller sees of a step. -/
structure Response where
  result : Except Failure Reply
  /-- The statements that were logged. -/
  log : List LogEntry
  /-- Whether the connection is open now. -/
  isOpen : Bool

/-- A response without its word on the connection. -/
def Response.told (response : Response) : Except Failure Reply × List LogEntry :=
  (response.result, response.log)

namespace Desk

/-- A new scope of a store on a disk. -/
def new (directory : List String) (path : String) (disk : Disk) : Desk :=
  ⟨Scope.new directory path, disk⟩

/-- The desk once its connection is closed. -/
def closed (desk : Desk) : Desk :=
  let (scope, disk) := desk.scope.release desk.disk
  ⟨scope, disk⟩

/-- Takes a step. -/
def take (hasher : Hasher) (desk : Desk) : Step → Response × Desk
  | .look => (⟨.ok .done, [], desk.scope.isOpen⟩, desk)
  | .acquire =>
    match desk.scope.acquire desk.disk with
    | .error f => (⟨.error f, [], desk.scope.isOpen⟩, desk)
    | .ok (_, scope, disk) => (⟨.ok .done, [], scope.isOpen⟩, ⟨scope, disk⟩)
  | .release => (⟨.ok .done, [], desk.closed.scope.isOpen⟩, desk.closed)
  | .renew =>
    let scope := desk.closed.scope.renewed
    (⟨.ok .done, [], scope.isOpen⟩, ⟨scope, desk.closed.disk⟩)
  | .ask asked =>
    let (result, after) := desk.scope.run desk.disk (asked.call hasher)
    (⟨result, after.log, after.scope.isOpen⟩, ⟨after.scope, after.disk⟩)

/-- Takes steps one after another. -/
def run (hasher : Hasher) (desk : Desk) : List Step → List Response × Desk
  | [] => ([], desk)
  | step :: steps =>
    let (response, desk) := desk.take hasher step
    let (responses, desk) := run hasher desk steps
    (response :: responses, desk)

/-- Steps in two parts. -/
theorem run_append (hasher : Hasher) (before after : List Step) (desk : Desk) :
    desk.run hasher (before ++ after) =
      ((desk.run hasher before).1 ++ ((desk.run hasher before).2.run hasher after).1,
        ((desk.run hasher before).2.run hasher after).2) := by
  induction before generalizing desk with
  | nil => rfl
  | cons step before ih => simp only [List.cons_append, run, ih]

/-- Every step is responded to. -/
theorem length_run (hasher : Hasher) (steps : List Step) (desk : Desk) :
    (desk.run hasher steps).1.length = steps.length := by
  induction steps generalizing desk with
  | nil => rfl
  | cons step steps ih => simp only [run, List.length_cons, ih]

end Desk

/-! ### Disks -/

namespace Disk

variable {disk : Disk} {path : List String}

/-- What is put under a path is found there, and what is under other paths stays. -/
theorem find?_put (here : path ≠ []) (entry : DiskEntry) (other : List String) :
    (disk.put path entry).find? other = if other = path then some entry else disk.find? other := by
  unfold find? put
  by_cases same : other = path
  · subst same
    simp [here]
  · simp only [if_neg same, List.find?_cons, beq_eq_false_iff_ne.2 (Ne.symm same),
      List.find?_filter]
    congr 3
    funext found
    by_cases at' : found.1 = other
    · simp [at', same]
    · simp [at']

/-- There is no store on an empty disk. -/
theorem find?_empty (path : List String) (db : Database) : empty.find? path ≠ some (.store db) := by
  unfold find?
  split
  · exact nofun
  · exact nofun

/-- What is put first is replaced. -/
theorem put_put (disk : Disk) (path : List String) (first second : DiskEntry) :
    (disk.put path first).put path second = disk.put path second := by
  simp [put]

/-- The directories of a path are there, below those above it. -/
def HasDirectories (disk : Disk) (above : List String) : List String → Prop
  | [] => True
  | name :: names =>
    disk.find? (above ++ [name]) = some .directory ∧ disk.HasDirectories (above ++ [name]) names

/-- Directories that are there need not be made. -/
theorem HasDirectories.makeBelow {above names : List String} (has : disk.HasDirectories above names) :
    disk.makeBelow above names = .ok disk := by
  induction names generalizing above with
  | nil => rfl
  | cons name names ih =>
    obtain ⟨here, below⟩ := has
    simp only [Disk.makeBelow, here]
    exact ih below

/-- What is put deeper leaves directories where they are. -/
theorem HasDirectories.put {above names : List String} (has : disk.HasDirectories above names)
    (deeper : above.length + names.length < path.length) (entry : DiskEntry) :
    (disk.put path entry).HasDirectories above names := by
  induction names generalizing above with
  | nil => trivial
  | cons name names ih =>
    obtain ⟨here, below⟩ := has
    rw [List.length_cons] at deeper
    have apart : above ++ [name] ≠ path := by
      rintro rfl
      rw [List.length_append, List.length_singleton] at deeper
      omega
    have somewhere : path ≠ [] := by
      rintro rfl
      exact absurd deeper (Nat.not_lt_zero _)
    refine ⟨?_, ih below ?_⟩
    · rw [find?_put somewhere, if_neg apart]
      exact here
    · rw [List.length_append, List.length_singleton]
      omega

/-- While directories are made nothing else is, and nothing is replaced. -/
theorem find?_makeBelow {made : Disk} {above names : List String}
    (makes : disk.makeBelow above names = .ok made) (path : List String) :
    made.find? path = disk.find? path ∨
      disk.find? path = none ∧ made.find? path = some .directory := by
  induction names generalizing disk above with
  | nil =>
    rw [← Except.ok.inj makes]
    exact .inl rfl
  | cons name names ih =>
    unfold Disk.makeBelow at makes
    dsimp only at makes
    split at makes
    · exact ih makes
    · cases makes
    · next missing =>
      have later := ih makes
      rw [find?_put (List.concat_ne_nil name above)] at later
      split at later
      · next same =>
        subst same
        refine .inr ⟨missing, ?_⟩
        rcases later with kept | ⟨nothing, -⟩
        · exact kept
        · cases nothing
      · exact later

/-- The directories that are made are there. -/
theorem hasDirectories_of_makeBelow {made : Disk} {above names : List String}
    (makes : disk.makeBelow above names = .ok made) : made.HasDirectories above names := by
  induction names generalizing disk above with
  | nil => trivial
  | cons name names ih =>
    have stays {other : Disk} (makes : other.makeBelow (above ++ [name]) names = .ok made)
        (here : other.find? (above ++ [name]) = some .directory) :
        made.find? (above ++ [name]) = some .directory := by
      rcases find?_makeBelow makes (above ++ [name]) with same | ⟨-, now⟩
      · exact same.trans here
      · exact now
    unfold Disk.makeBelow at makes
    dsimp only at makes
    split at makes
    · next here => exact ⟨stays makes here, ih makes⟩
    · cases makes
    · refine ⟨stays makes ?_, ih makes⟩
      rw [find?_put (List.concat_ne_nil name above), if_pos rfl]

/-- A store is under its path, below directories. -/
structure Keeps (disk : Disk) (location : List String) : Prop where
  somewhere : location ≠ []
  below : disk.HasDirectories [] location.dropLast

variable {location : List String}

/-- A store is still under its path after it was changed. -/
theorem Keeps.put (keeps : disk.Keeps location) (entry : DiskEntry) :
    (disk.put location entry).Keeps location := by
  refine ⟨keeps.somewhere, keeps.below.put ?_ entry⟩
  have long := List.length_pos_iff.2 keeps.somewhere
  rw [List.length_nil, List.length_dropLast]
  omega

/-- A store that was kept is opened as it was left. -/
theorem Keeps.openStore (keeps : disk.Keeps location) (db : Database) (written : String) :
    (disk.put location (.store db)).openStore location written =
      .ok (db, disk.put location (.store db)) := by
  have made : (disk.put location (.store db)).makeDirectories location.dropLast = .ok _ :=
    (keeps.put (.store db)).below.makeBelow
  simp only [Disk.openStore, made, bind, Except.bind, find?_put keeps.somewhere, if_true]

/-- A store that is opened is kept: it is empty or it was there before. -/
theorem keeps_of_openStore {written : String} {db : Database} {after : Disk}
    (opens : disk.openStore location written = .ok (db, after)) :
    after.Keeps location ∧ (db = .empty ∨ disk.find? location = some (.store db)) := by
  obtain ⟨made, makes, opens⟩ := bind_eq_ok opens
  have below := hasDirectories_of_makeBelow makes
  have somewhere (here : made.find? location ≠ some .directory) : location ≠ [] := by
    rintro rfl
    exact here rfl
  have anew (here : made.find? location ≠ some .directory)
      (opens : (.ok (.empty, made.put location (.store .empty)) : Except Failure (Database × Disk)) =
        .ok (db, after)) :
      after.Keeps location ∧ (db = .empty ∨ disk.find? location = some (.store db)) := by
    obtain ⟨rfl, rfl⟩ := Prod.mk.inj (Except.ok.inj opens)
    have keeps : made.Keeps location := ⟨somewhere here, below⟩
    exact ⟨keeps.put _, .inl rfl⟩
  split at opens
  · next here =>
    obtain ⟨rfl, rfl⟩ := Prod.mk.inj (Except.ok.inj opens)
    refine ⟨⟨somewhere (by rw [here]; exact nofun), below⟩, .inr ?_⟩
    rcases find?_makeBelow makes location with same | ⟨-, now⟩
    · exact same.symm.trans here
    · rw [here] at now
      cases now
  · next here => exact anew (by rw [here]; exact nofun) opens
  · next here => exact anew (by rw [here]; exact nofun) opens
  · cases opens
  · cases opens

end Disk

/-! ### Two desks -/

namespace Desk

variable {hasher : Hasher} {a b : Desk} {scope : Scope} {disk : Disk}

/-- The desk of a store on the disk whose tables are quiet, in its connection if that is open, else
where it is kept. -/
structure Quiet (desk : Desk) : Prop where
  lasting : desk.scope.isFleeting = false
  opened : ∀ s, desk.scope.connection = some s → s.Quiet ∧ desk.disk.Keeps desk.scope.location
  stored : desk.scope.connection = none →
    ∀ db, desk.disk.find? desk.scope.location = some (.store db) → Database.Quiet db

/-- Two desks of one store: they are closed and the same, or one of them was released while no
transaction was open, or both are open and their stores are alike. -/
inductive Alike : Desk → Desk → Prop
  | closed (desk : Desk) (shut : desk.scope.connection = none) : Alike desk desk
  | released (scope : Scope) (disk : Disk) {s : Store} (idle : s.saved = none) :
      Alike ⟨{ scope with connection := some s }, disk⟩
        ⟨{ scope with connection := none }, disk.put scope.location (.store s.database)⟩
  | opened (scope : Scope) {disk disk' : Disk} {s t : Store} (alike : Unchanged s t)
      (elsewhere : ∀ entry, disk'.put scope.location entry = disk.put scope.location entry) :
      Alike ⟨{ scope with connection := some s }, disk⟩ ⟨{ scope with connection := some t }, disk'⟩

/-- A desk is like itself. -/
theorem Alike.self (desk : Desk) : Alike desk desk := by
  obtain ⟨⟨directory, path, _ | s⟩, disk⟩ := desk
  · exact .closed _ rfl
  · exact .opened ⟨directory, path, some s⟩ ⟨rfl, rfl, rfl⟩ fun _ => rfl

/-- A closed desk stays as it is when it is closed. -/
theorem closed_of_shut (shut : a.scope.connection = none) : a.closed = a := by
  simp only [Desk.closed, Scope.release, shut]

/-- What was committed is left on the disk when a connection is closed. -/
theorem closed_of_open (scope : Scope) (lasting : scope.isFleeting = false) (disk : Disk) (s : Store) :
    closed ⟨{ scope with connection := some s }, disk⟩ =
      ⟨{ scope with connection := none }, disk.put scope.location (.store s.committed)⟩ := by
  have lasting : Scope.isFleeting { scope with connection := some s } = false := lasting
  simp only [Desk.closed, Scope.release, lasting]
  rfl

/-- A closed scope is renewed as it is. -/
theorem renewed_closed (desk : Desk) : desk.closed.scope.renewed = desk.closed.scope := by
  obtain ⟨⟨directory, path, _ | s⟩, disk⟩ := desk <;> rfl

/-- A desk that is closed while no transaction is open is like one that is not. -/
theorem Alike.close (lasting : a.scope.isFleeting = false)
    (idle : ∀ s, a.scope.connection = some s → s.saved = none) : Alike a a.closed := by
  obtain ⟨⟨directory, path, _ | s⟩, disk⟩ := a
  · exact .closed _ rfl
  · have noneSaved := idle s rfl
    have whole := closed_of_open ⟨directory, path, some s⟩ lasting disk s
    rw [Store.committed, noneSaved] at whole
    rw [whole]
    exact .released ⟨directory, path, some s⟩ disk noneSaved

/-- Desks that are alike are the same once they are closed. -/
theorem Alike.closed_eq (alike : Alike a b) (lasting : a.scope.isFleeting = false) :
    b.closed = a.closed := by
  cases alike with
  | closed shut => rfl
  | @released scope disk s idle =>
    rw [closed_of_open scope lasting, closed_of_shut rfl, Store.committed, idle]
    rfl
  | @opened scope disk disk' s t alike elsewhere =>
    have committed : t.committed = s.committed := by
      rw [Store.committed, Store.committed, alike.saved, alike.database]
    rw [closed_of_open scope lasting, closed_of_open scope lasting, committed,
      elsewhere]

/-- The tables that are left behind when a quiet store is closed are quiet. -/
theorem quiet_committed {s : Store} (quiet : s.Quiet) : s.committed.Quiet := by
  rw [Store.committed]
  cases saved : s.saved with
  | none => exact quiet.database
  | some db => exact quiet.saved db saved

/-- Closing a desk leaves quiet tables on the disk. -/
theorem Quiet.close (quiet : a.Quiet) : a.closed.Quiet := by
  obtain ⟨⟨directory, path, _ | s⟩, disk⟩ := a
  · exact quiet
  · obtain ⟨own, keeps⟩ := quiet.opened s rfl
    have lasting := quiet.lasting
    rw [closed_of_open ⟨directory, path, some s⟩ lasting]
    refine ⟨lasting, nofun, fun _ db here => ?_⟩
    have found : (disk.put (Scope.location ⟨directory, path, some s⟩) (.store s.committed)).find?
        (Scope.location ⟨directory, path, some s⟩) = some (.store s.committed) := by
      rw [Disk.find?_put keeps.somewhere, if_pos rfl]
    have same := found.symm.trans here
    obtain rfl := DiskEntry.store.inj (Option.some.inj same)
    exact quiet_committed own

/-- A store that was just opened is quiet if its tables are. -/
theorem quiet_opened {db : Database} (quiet : db.Quiet) : (Store.opened db).Quiet :=
  ⟨quiet, nofun, rfl⟩

/-- A closed desk is opened with the store that is on its disk. -/
theorem acquire_of_shut (shut : scope.connection = none) (lasting : scope.isFleeting = false)
    (disk : Disk) : scope.acquire disk =
      (disk.openStore scope.location scope.path).map fun opened =>
        (Store.opened opened.1, { scope with connection := some (Store.opened opened.1) }, opened.2) := by
  simp only [Scope.acquire, shut, lasting, Bool.false_eq_true, if_false]
  cases disk.openStore scope.location scope.path <;> rfl

/-- A quiet desk is opened with a quiet store, or it cannot be opened. -/
theorem Quiet.acquire (quiet : a.Quiet) : (∃ f, a.scope.acquire a.disk = .error f) ∨
    ∃ s disk, a.scope.acquire a.disk = .ok (s, { a.scope with connection := some s }, disk) ∧
      Quiet ⟨{ a.scope with connection := some s }, disk⟩ := by
  cases shut : a.scope.connection with
  | some s =>
    obtain ⟨⟨directory, path, _⟩, disk⟩ := a
    obtain rfl : _ = some s := shut
    exact .inr ⟨s, disk, rfl, quiet⟩
  | none =>
    rw [acquire_of_shut shut quiet.lasting]
    cases opens : a.disk.openStore a.scope.location a.scope.path with
    | error f => exact .inl ⟨f, rfl⟩
    | ok opened =>
      obtain ⟨db, disk⟩ := opened
      obtain ⟨keeps, known⟩ := Disk.keeps_of_openStore opens
      refine .inr ⟨Store.opened db, disk, rfl, quiet.lasting, fun s here => ?_, nofun⟩
      obtain rfl := Option.some.inj here
      refine ⟨quiet_opened ?_, keeps⟩
      rcases known with rfl | stored
      · exact nofun
      · exact quiet.stored shut db stored

/-- Two desks that are alike cannot be opened, or they are opened with stores that are alike. -/
theorem Alike.acquire (alike : Alike a b) (quiet : a.Quiet) :
    (∃ f, a.scope.acquire a.disk = .error f ∧ b.scope.acquire b.disk = .error f) ∨
    ∃ (scope : Scope) (s t : Store) (disk disk' : Disk),
      a.scope.acquire a.disk = .ok (s, { scope with connection := some s }, disk) ∧
      b.scope.acquire b.disk = .ok (t, { scope with connection := some t }, disk') ∧
      Unchanged s t ∧ (∀ entry, disk'.put scope.location entry = disk.put scope.location entry) ∧
      Quiet ⟨{ scope with connection := some s }, disk⟩ := by
  cases alike with
  | closed desk shut =>
    rcases quiet.acquire with ⟨f, fails⟩ | ⟨s, disk, opens, later⟩
    · exact .inl ⟨f, fails, fails⟩
    · exact .inr ⟨a.scope, s, s, disk, disk, opens, opens, ⟨rfl, rfl, rfl⟩, fun _ => rfl, later⟩
  | @released scope disk s idle =>
    obtain ⟨own, keeps⟩ := quiet.opened s rfl
    have found : (disk.put scope.location (.store s.database)).openStore scope.location scope.path =
        .ok (s.database, disk.put scope.location (.store s.database)) :=
      keeps.openStore s.database scope.path
    have opens : ({ scope with connection := none } : Scope).acquire
        (disk.put scope.location (.store s.database)) =
          .ok (Store.opened s.database, { scope with connection := some (Store.opened s.database) },
            disk.put scope.location (.store s.database)) := by
      have shut : Scope.connection { scope with connection := none } = none := rfl
      rw [acquire_of_shut shut quiet.lasting]
      exact congrArg (Except.map _) found
    exact .inr ⟨scope, s, Store.opened s.database, disk, _, rfl, opens,
      ⟨rfl, idle.symm, own.enforcing.symm⟩, fun entry => disk.put_put _ _ entry, quiet⟩
  | @opened scope disk disk' s t alike elsewhere =>
    exact .inr ⟨scope, s, t, disk, disk', rfl, rfl, alike, elsewhere, quiet⟩

/-- Desks that are alike have the same scope but for its connection. -/
theorem Alike.isFleeting (alike : Alike a b) : b.scope.isFleeting = a.scope.isFleeting := by
  cases alike <;> rfl

/-- What is asked of a store that can be opened comes to what its call does. -/
theorem take_ask {s : Store} {asked : Ask}
    (opens : a.scope.acquire a.disk = .ok (s, { scope with connection := some s }, disk)) :
    a.take hasher (.ask asked) =
      (⟨((asked.call hasher).outcome ⟨s, []⟩).1, ((asked.call hasher).outcome ⟨s, []⟩).2.log.reverse,
          true⟩,
        ⟨{ scope with connection := some ((asked.call hasher).outcome ⟨s, []⟩).2.store }, disk⟩) := by
  simp only [take, Scope.run, opens]
  rfl

/-- What is quiet is answered alike at desks that are alike. -/
theorem Alike.ask (alike : Alike a b) (quiet : a.Quiet) {asked : Ask} (own : asked.quiet = true)
    (logged : ∀ entry ∈ (a.take hasher (.ask asked)).1.log, quietText entry.text = true) :
    (b.take hasher (.ask asked)).1.told = (a.take hasher (.ask asked)).1.told ∧
      Alike (a.take hasher (.ask asked)).2 (b.take hasher (.ask asked)).2 ∧
      (a.take hasher (.ask asked)).2.Quiet := by
  rcases alike.acquire quiet with ⟨f, fails, fails'⟩ |
    ⟨scope, s, t, disk, disk', opens, opens', same, elsewhere, later⟩
  · simp only [take, Scope.run, fails, fails']
    exact ⟨rfl, alike, quiet⟩
  · obtain ⟨own', keeps⟩ := later.opened s rfl
    have forgets := Ask.forgets hasher own
    rw [take_ask opens] at logged ⊢
    rw [take_ask opens']
    obtain ⟨result, left⟩ := forgets.same ⟨s, []⟩ ⟨t, []⟩ own' same fun new log entry mem => by
      rw [List.append_nil] at log
      exact logged entry (List.mem_reverse.2 (log ▸ mem))
    obtain ⟨new, log⟩ := forgets.grows ⟨s, []⟩
    have log' := left.logs new log
    refine ⟨?_, .opened scope left.alike elsewhere, ?_⟩
    · rw [Response.told, Response.told, result, log, log']
    · exact ⟨later.lasting, fun _ here => ⟨Option.some.inj here ▸ left.quiet, keeps⟩, nofun⟩

/-- A step leaves desks alike that are, and tells the same of both. -/
theorem Alike.take (alike : Alike a b) (quiet : a.Quiet) {step : Step} (own : step.quiet = true)
    (logged : ∀ entry ∈ (a.take hasher step).1.log, quietText entry.text = true) :
    (b.take hasher step).1.told = (a.take hasher step).1.told ∧
      Alike (a.take hasher step).2 (b.take hasher step).2 ∧ (a.take hasher step).2.Quiet := by
  cases step with
  | look => exact ⟨rfl, alike, quiet⟩
  | acquire =>
    rcases alike.acquire quiet with ⟨f, fails, fails'⟩ |
      ⟨scope, s, t, disk, disk', opens, opens', same, elsewhere, later⟩
    · simp only [Desk.take, fails, fails']
      exact ⟨rfl, alike, quiet⟩
    · simp only [Desk.take, opens, opens']
      exact ⟨rfl, .opened scope same elsewhere, later⟩
  | release =>
    simp only [Desk.take, alike.closed_eq quiet.lasting]
    exact ⟨trivial, .self _, quiet.close⟩
  | renew =>
    simp only [Desk.take, alike.closed_eq quiet.lasting, renewed_closed]
    exact ⟨trivial, .self _, quiet.close⟩
  | ask asked => exact alike.ask quiet own logged

/-- Steps leave desks alike that are, and tell the same of both. -/
theorem Alike.run (alike : Alike a b) (quiet : a.Quiet) {steps : List Step}
    (own : ∀ step ∈ steps, step.quiet = true)
    (logged : ∀ response ∈ (a.run hasher steps).1, ∀ entry ∈ response.log,
      quietText entry.text = true) :
    (b.run hasher steps).1.map Response.told = (a.run hasher steps).1.map Response.told ∧
      Alike (a.run hasher steps).2 (b.run hasher steps).2 ∧ (a.run hasher steps).2.Quiet := by
  induction steps generalizing a b with
  | nil => exact ⟨rfl, alike, quiet⟩
  | cons step steps ih =>
    obtain ⟨first, others⟩ := List.forall_mem_cons.1 own
    obtain ⟨here, later⟩ := List.forall_mem_cons.1 logged
    obtain ⟨told, left, stays⟩ := alike.take quiet first here
    obtain ⟨rest, ends, quietly⟩ := ih left stays others later
    refine ⟨?_, ends, quietly⟩
    simp only [Desk.run, List.map_cons, told, rest]

/-- A table of ships is made, and a ship is put into it. -/
def launching : List Step :=
  [.ask (.script "CREATE TABLE ships (ships_id INTEGER PRIMARY KEY, ships_val TEXT);"),
    .ask (.insert "ships" (Entries.ofList [("ships_val", .text "Defiant")]))]

/-- The ships are asked for that a text is true of. -/
def sighting (text : String) : Step :=
  .ask (.select { Question.ofTable "ships" with filter := some (.scalar (.text text)) })

/-- The rows that the last response shows. -/
def shown (responses : List Response) : Option (List (List (String × Value))) :=
  match responses.getLast?.map Response.result with
  | some (.ok (.rows rows)) => some (rows.map Row.items)
  | _ => none

end Desk

end Registrar
