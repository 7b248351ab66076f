import Registrar.Proofs.Insertion
import Registrar.Proofs.Sql.Catalogue
import Registrar.Proofs.Sql.Scripted

/-!
# Listing the tables

The tables that a store lists are those that callers have made, in the order of their creation, but for
the names that the pattern of hidden names takes along: its underscore stands for any character, so that
a table whose name goes on behind `sqlite` is hidden with the tables of the store itself.
-/

namespace Registrar

open Registrar.Text Registrar.Sql

section Hiding

/-- Whether a name starts with `sqlite`, in letters of any case, and goes on behind it. -/
def looksReserved (name : String) : Bool :=
  "sqlite".toList.isPrefixOf (lowerAscii name).toList && 6 < name.toList.length

/-- A word, any character and any text are what starts like the word and is longer. -/
theorem likeMatches_word {word : List Char} (plain : ∀ c ∈ word, c ≠ '%' ∧ c ≠ '_')
    (text : List Char) : likeMatches none (word ++ ['_', '%']) text =
      ((word.map lowerChar).isPrefixOf (text.map lowerChar) && decide (word.length < text.length)) := by
  induction word generalizing text with
  | nil =>
    cases text with
    | nil => rfl
    | cons c cs => rfl
  | cons p ps ih =>
    obtain ⟨noPercent, noUnderscore⟩ := plain p List.mem_cons_self
    have behind := ih fun c mem => plain c (List.mem_cons_of_mem p mem)
    obtain ⟨q, rest, more⟩ : ∃ q rest, ps ++ ['_', '%'] = q :: rest :=
      List.exists_cons_of_ne_nil (by simp)
    rw [more] at behind
    rw [List.cons_append, more]
    cases text with
    | nil => simp [likeMatches, noPercent]
    | cons c cs =>
      simp [likeMatches, noPercent, beq_false_of_ne noUnderscore, behind, List.isPrefixOf,
        Bool.and_assoc]

/-- The names that are not listed are those that look reserved. -/
theorem isHiddenName_eq (name : String) : isHiddenName name = looksReserved name := by
  have pattern : "sqlite_%".toList = "sqlite".toList ++ ['_', '%'] := rfl
  have small : "sqlite".toList.map lowerChar = "sqlite".toList := by decide
  have length : "sqlite".toList.length = 6 := rfl
  have capitals : (lowerAscii name).toList = name.toList.map lowerChar := String.toList_ofList
  rw [isHiddenName, pattern, likeMatches_word (by simp), small, length, looksReserved, capitals]

/-- A reserved name looks reserved. -/
theorem looksReserved_of_isReservedName {name : String} (reserved : isReservedName name = true) :
    looksReserved name = true := by
  rw [isReservedName, List.isPrefixOf_iff_prefix] at reserved
  obtain ⟨rest, whole⟩ := reserved
  have parts : (lowerAscii name).toList = "sqlite".toList ++ ('_' :: rest) := by
    rw [← whole]
    rfl
  have length : name.toList.length = (lowerAscii name).toList.length := by
    rw [lowerAscii, mapChars, String.toList_ofList, List.length_map]
  rw [looksReserved, length, parts, Bool.and_eq_true, List.isPrefixOf_iff_prefix]
  exact ⟨⟨_, rfl⟩, by simp⟩

end Hiding

section Naming

/-- The names of the tables that callers have made, in the order of their creation. -/
def Sql.Books.tables (books : Books) : List String :=
  (books.made.filter Made.isTable).map Made.name

/-- The tables of a store are among what is in it. -/
theorem names_tables (db : Database) :
    db.tables.map Table.name = ((db.items.map Item.made).filter Made.isTable).map Made.name := by
  rw [Database.tables]
  induction db.items with
  | nil => rfl
  | cons item items ih =>
    cases item with
    | table t => exact congrArg (t.name :: ·) ih
    | view v => exact ih

/-- What is listed are the tables that callers have made, but for names that look reserved. -/
theorem tableNames_eq (db : Database) : db.tableNames =
    ((db.made.filter Made.isTable).map Made.name).filter fun name => !looksReserved name := by
  rw [Database.tableNames, names_tables, Database.made]
  simp only [isHiddenName_eq, List.filter_map, List.filter_filter, Function.comp_def]
  refine congrArg (List.map _) (congrArg (List.map _) (List.filter_congr fun item _ => ?_))
  cases reserved : isReservedName item.made.name with
  | false => simp
  | true =>
    rw [looksReserved_of_isReservedName reserved]
    simp

/-- What callers have made has different names. -/
theorem pairwise_made {db : Database} (distinct : db.Distinct) :
    db.made.Pairwise fun a b => sameName a.name b.name = false := by
  refine List.Pairwise.filter _ (List.pairwise_map.2 (distinct.imp fun apart => ?_))
  simpa using apart

/-- What callers have made of one name is one thing. -/
theorem eq_of_mem_made {db : Database} (distinct : db.Distinct) {a b : Made} (first : a ∈ db.made)
    (second : b ∈ db.made) (same : a.name = b.name) : a = b := by
  obtain ⟨item, among, rfl⟩ := List.mem_map.1 (List.mem_filter.1 first).1
  obtain ⟨other, present, rfl⟩ := List.mem_map.1 (List.mem_filter.1 second).1
  have names : item.name = other.name := by simpa using same
  have found := Database.find?_of_mem distinct among
  rw [names, Database.find?_of_mem distinct present] at found
  rw [Option.some.inj found]

/-- The tables that are listed are those that callers have made, in the order of their creation, but for
those whose name starts with `sqlite`, in letters of any case, and goes on behind it.  They have different
names, no view and no table of the store itself is among them, and they are all tables that callers have
made exactly if no table has such a name. -/
theorem tables_are_listed_iff {session : Session} {books : Books}
    (booked : session.store.Booked books) :
    ∃ listing, Call.tableNames.outcome session = (.ok listing, session) ∧
      listing = books.tables.filter (fun name => !looksReserved name) ∧
      listing.Pairwise (fun a b => sameName a b = false) ∧
      (∀ made ∈ books.made, made.isTable = false → made.name ∉ listing) ∧
      (∀ name ∈ listing, isReservedName name = false) ∧
      (listing = books.tables ↔ ∀ name ∈ books.tables, looksReserved name = false) := by
  have distinct := booked.reached.distinct
  have made : books.made = session.store.database.made := congrArg Books.made booked.books_eq
  have listed : session.store.database.tableNames =
      books.tables.filter fun name => !looksReserved name := by
    rw [tableNames_eq, Books.tables, made]
  refine ⟨_, rfl, listed, ?_, ?_, ?_, ?_⟩
  · rw [listed, Books.tables, made]
    exact ((List.pairwise_map.2 ((pairwise_made distinct).filter _))).filter _
  · intro view mem isView among
    rw [listed] at among
    obtain ⟨table, present, same⟩ := List.mem_map.1 (List.mem_filter.1 among).1
    obtain ⟨mem', isTable⟩ := List.mem_filter.1 present
    rw [made] at mem mem'
    rw [eq_of_mem_made distinct mem' mem same, isView] at isTable
    cases isTable
  · intro name mem
    rw [listed] at mem
    have shown := (List.mem_filter.1 mem).2
    rw [Bool.eq_false_iff]
    intro reserved
    rw [looksReserved_of_isReservedName reserved] at shown
    cases shown
  · rw [listed, List.filter_eq_self]
    simp

/-- The declaration of a table of ids. -/
def idsText (name : String) : String :=
  "CREATE TABLE " ++ name ++ " (id INTEGER PRIMARY KEY)"

/-- A table of no ids yet. -/
def idsTable (name : String) : Table :=
  ⟨name, [⟨"id", "INTEGER", .integer, .binary, false, 1, none⟩], some 0, false, [], [], [], [],
    idsText name⟩

/-- A store of two tables, of which the one that was there first has been made anew. -/
def harbour : Session :=
  ⟨.opened ⟨[.table (idsTable "sqliteships"), .table (idsTable "ships")]⟩, []⟩

/-- The books of such a store. -/
def harbourBooks : Books :=
  ⟨[⟨true, "sqliteships"⟩, ⟨true, "ships"⟩], none⟩

/-- The books have been kept by the statements that made the store. -/
theorem booked_harbour : harbour.store.Booked harbourBooks := by
  have first : (Store.opened .empty).prepare (idsText "ships") (.createTable ⟨"ships", "ships", 13⟩ false
      [⟨"id", "INTEGER", [.primaryKey false false]⟩] []) =
        .ok (.become ⟨[.table (idsTable "ships")]⟩) := rfl
  have second : (Store.opened ⟨[.table (idsTable "ships")]⟩).prepare (idsText "sqliteships")
      (.createTable ⟨"sqliteships", "sqliteships", 13⟩ false
        [⟨"id", "INTEGER", [.primaryKey false false]⟩] []) =
        .ok (.become ⟨[.table (idsTable "ships"), .table (idsTable "sqliteships")]⟩) := rfl
  have third : (Store.opened ⟨[.table (idsTable "ships"), .table (idsTable "sqliteships")]⟩).prepare ""
      (.drop false false "ships") = .ok (.drop (idsTable "ships")) := rfl
  have removed : (Store.opened ⟨[.table (idsTable "ships"), .table (idsTable "sqliteships")]⟩).run []
      (.drop (idsTable "ships")) = .ok (.none, .opened ⟨[.table (idsTable "sqliteships")]⟩) := rfl
  have fourth : (Store.opened ⟨[.table (idsTable "sqliteships")]⟩).prepare (idsText "ships")
      (.createTable ⟨"ships", "ships", 13⟩ false [⟨"id", "INTEGER", [.primaryKey false false]⟩] []) =
        .ok (.become harbour.store.database) := rfl
  have made {s : Store} (db : Database) : s.run [] (.become db) = .ok (.none, { s with database := db }) :=
    rfl
  exact .ran (.ran (.ran (.ran .opened first (made _)) second (made _)) third removed) fourth (made _)

/-- Of the two tables of the store, the one that looks like a table of the store itself is not listed. -/
theorem tables_are_listed_harbour :
    harbour.store.Booked harbourBooks ∧ harbourBooks.tables = ["sqliteships", "ships"] ∧
      Call.tableNames.outcome harbour = (.ok ["ships"], harbour) := by
  obtain ⟨listing, done, exact, -⟩ := tables_are_listed_iff booked_harbour
  have shown : harbourBooks.tables.filter (fun name => !looksReserved name) = ["ships"] := by decide
  refine ⟨booked_harbour, rfl, ?_⟩
  rw [done, exact, shown]

end Naming

section Describing

variable {db : Database} {name : String} {names : List String}

/-- The name of a column and its type, as a description tells them. -/
def ColumnInfo.heading (column : ColumnInfo) : String × String :=
  (column.name, column.type)

/-- A description of the table of a name, with its columns in the order in which the text of its
declaration declares them. -/
structure Sql.Database.Describes (db : Database) (name : String) (info : TableInfo) : Prop where
  named : info.name = name
  columns : ∃ t decls, db.table? name = some t ∧ t.name = name ∧ t.IsWritten decls ∧
    info.columns = t.columns.map ColumnInfo.ofColumn ∧
    info.columns.map ColumnInfo.heading = decls.map ColumnDecl.heading

/-- A name that is listed is that of a table that a caller has made. -/
theorem table_of_mem_tableNames (distinct : db.Distinct) (listed : name ∈ db.tableNames) :
    ∃ t, db.table? name = some t ∧ t.name = name ∧ isReservedName name = false := by
  obtain ⟨among, shown⟩ := List.mem_filter.1 listed
  obtain ⟨t, isTable, rfl⟩ := List.mem_map.1 among
  have inStore : Item.table t ∈ db.items := by
    obtain ⟨item, mem, same⟩ := List.mem_filterMap.1 isTable
    cases item with
    | table other =>
      obtain rfl := Option.some.inj same
      exact mem
    | view v => cases same
  have found := Database.find?_of_mem distinct inStore
  have here : db.find? t.name = some (.table t) := found
  refine ⟨t, by rw [Database.table?, here], rfl, ?_⟩
  rw [Bool.eq_false_iff]
  intro reserved
  rw [isHiddenName_eq, looksReserved_of_isReservedName reserved] at shown
  cases shown

/-- A table that has columns is described if its name is an identifier, else the name is refused. -/
theorem describe_cases {t : Table} (found : db.table? name = some t) (some : t.columns ≠ []) :
    (isIdentifier name = true ∧ ∃ info, db.describe name = .ok info) ∨
      isIdentifier name = false ∧ db.describe name = .error (.rejected (.identifier name)) := by
  have columns : db.columnInfo name = t.columns.map ColumnInfo.ofColumn := by
    rw [Database.columnInfo, Database.find?_of_table? found]
  obtain ⟨first, others, own⟩ := List.exists_cons_of_ne_nil some
  rw [Database.describe, identifier]
  cases valid : isIdentifier name with
  | true => simp [columns, own, bind, Except.bind]
  | false => exact .inr ⟨rfl, rfl⟩

/-- A description is under the name that it is asked for by. -/
theorem name_of_describe {info : TableInfo} (described : db.describe name = .ok info) :
    info.name = name := by
  obtain ⟨kept, valid, described⟩ := bind_eq_ok described
  obtain ⟨rfl, -⟩ := identifier_eq_ok_iff.1 valid
  split at described
  · cases described
  · rw [← Except.ok.inj described]

/-- Where several tables are described, each name has its own description. -/
theorem of_describeAll {infos : List (String × TableInfo)} (done : db.describeAll names = .ok infos) :
    infos.map Prod.fst = names ∧ ∀ entry ∈ infos, db.describe entry.1 = .ok entry.2 := by
  induction names generalizing infos with
  | nil =>
    rw [← Except.ok.inj done]
    exact ⟨rfl, nofun⟩
  | cons name names ih =>
    obtain ⟨info, own, done⟩ := bind_eq_ok done
    obtain ⟨rest, behind, done⟩ := bind_eq_ok done
    obtain ⟨same, each⟩ := ih behind
    rw [← Except.ok.inj done]
    exact ⟨congrArg (name :: ·) same, List.forall_mem_cons.2 ⟨own, each⟩⟩

/-- Where several tables are not described, one is not, and those in front of it are. -/
theorem of_describeAll_error {failure : Failure} (failed : db.describeAll names = .error failure) :
    ∃ before name behind, names = before ++ name :: behind ∧
      (∀ other ∈ before, ∃ info, db.describe other = .ok info) ∧ db.describe name = .error failure := by
  induction names with
  | nil => cases failed
  | cons name names ih =>
    cases own : db.describe name with
    | error other =>
      simp only [Database.describeAll, own, bind, Except.bind] at failed
      obtain rfl := Except.error.inj failed
      exact ⟨[], name, names, rfl, nofun, own⟩
    | ok info =>
      cases rest : db.describeAll names with
      | ok infos =>
        simp only [Database.describeAll, own, rest, bind, Except.bind] at failed
        cases failed
      | error other =>
        simp only [Database.describeAll, own, rest, bind, Except.bind] at failed
        obtain ⟨before, second, behind, same, each, refused⟩ := ih (rest.trans failed)
        exact ⟨name :: before, second, behind, congrArg (name :: ·) same,
          List.forall_mem_cons.2 ⟨⟨info, own⟩, each⟩, refused⟩

/-- A table that is listed has been declared by a text. -/
theorem isWritten_of_listed (distinct : db.Distinct) (written : db.All Item.IsWritten)
    (listed : name ∈ db.tableNames) :
    ∃ t decls, db.table? name = some t ∧ t.name = name ∧ t.IsWritten decls := by
  obtain ⟨t, found, named, free⟩ := table_of_mem_tableNames distinct listed
  rcases written.of_table? found with reserved | ⟨decls, own⟩
  · rw [named, free] at reserved
    cases reserved
  · exact ⟨t, decls, found, named, own⟩

/-- A table that is listed has columns, so that nothing but its name is in the way of its description. -/
theorem describe_listed_cases (distinct : db.Distinct) (written : db.All Item.IsWritten)
    (listed : name ∈ db.tableNames) :
    (isIdentifier name = true ∧ ∃ info, db.describe name = .ok info) ∨
      isIdentifier name = false ∧ db.describe name = .error (.rejected (.identifier name)) := by
  obtain ⟨t, decls, found, -, own⟩ := isWritten_of_listed distinct written listed
  exact describe_cases found own.columns_ne_nil

/-- The description of a table that is listed tells the columns in the order of the declaration. -/
theorem describes_listed (distinct : db.Distinct) (written : db.All Item.IsWritten) {info : TableInfo}
    (listed : name ∈ db.tableNames) (described : db.describe name = .ok info) :
    isIdentifier name = true ∧ db.Describes name info := by
  obtain ⟨t, decls, found, named, own⟩ := isWritten_of_listed distinct written listed
  obtain ⟨valid, columns⟩ := Call.columns_of_describe found described
  refine ⟨valid, name_of_describe described, t, decls, found, named, own, columns, ?_⟩
  rw [columns, List.map_map, ← own.columns]
  rfl

/-- Where the tables that are listed are described, each has its description. -/
theorem describes_of_describeAll (distinct : db.Distinct) (written : db.All Item.IsWritten)
    {infos : List (String × TableInfo)} (done : db.describeAll db.tableNames = .ok infos) :
    infos.map Prod.fst = db.tableNames ∧
      ∀ entry ∈ infos, isIdentifier entry.1 = true ∧ db.Describes entry.1 entry.2 := by
  obtain ⟨same, each⟩ := of_describeAll done
  refine ⟨same, fun entry mem => ?_⟩
  have listed : entry.1 ∈ db.tableNames := same ▸ List.mem_map_of_mem mem
  exact describes_listed distinct written listed (each entry mem)

/-- Where the tables that are listed are not described, the first name that is no identifier is
refused. -/
theorem refuses_of_describeAll (distinct : db.Distinct) (written : db.All Item.IsWritten)
    {failure : Failure} (failed : db.describeAll db.tableNames = .error failure) :
    ∃ before name behind, db.tableNames = before ++ name :: behind ∧
      (∀ other ∈ before, isIdentifier other = true) ∧ isIdentifier name = false ∧
      failure = .rejected (.identifier name) := by
  obtain ⟨before, name, behind, split, described, undescribed⟩ := of_describeAll_error failed
  have own : name ∈ db.tableNames := by
    rw [split]
    exact List.mem_append_right _ List.mem_cons_self
  refine ⟨before, name, behind, split, fun other mem => ?_, ?_⟩
  · have inFront : other ∈ db.tableNames := by
      rw [split]
      exact List.mem_append_left _ mem
    obtain ⟨info, ok⟩ := described other mem
    exact (describes_listed distinct written inFront ok).1
  · rcases describe_listed_cases distinct written own with ⟨-, info, ok⟩ | ⟨invalid, error⟩
    · rw [ok] at undescribed
      cases undescribed
    · rw [error] at undescribed
      exact ⟨invalid, (Except.error.inj undescribed).symm⟩

/-- The tables that are listed are described exactly if their names are identifiers. -/
theorem describeAll_iff (distinct : db.Distinct) (written : db.All Item.IsWritten) :
    (∃ infos, db.describeAll db.tableNames = .ok infos) ↔
      ∀ name ∈ db.tableNames, isIdentifier name = true := by
  constructor
  · rintro ⟨infos, done⟩ name mem
    obtain ⟨same, each⟩ := describes_of_describeAll distinct written done
    rw [← same] at mem
    obtain ⟨entry, among, rfl⟩ := List.mem_map.1 mem
    exact (each entry among).1
  · intro valid
    cases all : db.describeAll db.tableNames with
    | ok infos => exact ⟨infos, rfl⟩
    | error failure =>
      obtain ⟨before, name, behind, split, -, invalid, -⟩ :=
        refuses_of_describeAll distinct written all
      have own : name ∈ db.tableNames := by
        rw [split]
        exact List.mem_append_right _ List.mem_cons_self
      rw [valid name own] at invalid
      cases invalid

/-- Describing all tables that are listed leaves the session. -/
theorem outcome_tableMap (session : Session) : Call.tableMap.outcome session =
    (session.store.database.describeAll session.store.database.tableNames, session) := by
  rw [Call.tableMap, Call.outcome_bind_of_ok (Call.outcome_store session), Call.outcome_lift]

/-- All tables that are listed are described exactly if their names are identifiers.  Then there is a
description for each, in the order of the listing, with the columns in the order of the declaration; else
the first name that is no identifier is refused.  The session stays as it is in either case. -/
theorem table_map_covers_iff {session : Session} (scripted : session.store.Scripted) :
    ∃ listing, Call.tableNames.outcome session = (.ok listing, session) ∧
      (Call.tableMap.outcome session).2 = session ∧
      ((∃ infos, (Call.tableMap.outcome session).1 = .ok infos) ↔
        ∀ name ∈ listing, isIdentifier name = true) ∧
      (∀ infos, (Call.tableMap.outcome session).1 = .ok infos → infos.map Prod.fst = listing ∧
        ∀ entry ∈ infos, session.store.database.Describes entry.1 entry.2) ∧
      ∀ failure, (Call.tableMap.outcome session).1 = .error failure →
        ∃ before name behind, listing = before ++ name :: behind ∧
          (∀ other ∈ before, isIdentifier other = true) ∧ isIdentifier name = false ∧
          failure = .rejected (.identifier name) := by
  have distinct := scripted.reached.distinct
  have written := scripted.isWritten.1
  refine ⟨session.store.database.tableNames, rfl, by rw [outcome_tableMap], ?_⟩
  rw [outcome_tableMap]
  refine ⟨describeAll_iff distinct written, fun infos done => ?_,
    fun failure failed => refuses_of_describeAll distinct written failed⟩
  obtain ⟨same, each⟩ := describes_of_describeAll distinct written done
  exact ⟨same, fun entry mem => (each entry mem).2⟩

/-- The session on a new store when a script has been run on it. -/
def scriptedSession (text : String) : Session :=
  ⟨((Store.opened .empty).script text).1, []⟩

/-- The store of such a session is made by texts. -/
theorem scripted_scriptedSession (text : String) : (scriptedSession text).store.Scripted :=
  Store.Scripted.opened.runScript (text.length + 1)

/-- The declaration of a table with a name of two words. -/
def portsText : String :=
  "CREATE TABLE \"home port\" (port_id INTEGER PRIMARY KEY)"

/-- A table with a name of two words is listed but keeps the tables from being described, and a table
with a plain name is described. -/
theorem table_map_covers_ports :
    Call.tableNames.outcome (scriptedSession portsText) =
        (.ok ["home port"], scriptedSession portsText) ∧
      Call.tableMap.outcome (scriptedSession portsText) =
        (.error (.rejected (.identifier "home port")), scriptedSession portsText) ∧
      ∃ infos, (Call.tableMap.outcome (scriptedSession (idsText "ships"))).1 = .ok infos ∧
        infos.map Prod.fst = ["ships"] := by
  have names : (scriptedSession portsText).store.database.tableNames = ["home port"] := by
    decide +kernel
  have name : (scriptedSession (idsText "ships")).store.database.tableNames = ["ships"] := by
    decide +kernel
  refine ⟨?_, ?_, ?_⟩
  · rw [← names]
    rfl
  · obtain ⟨listing, done, stays, described, -, refused⟩ :=
      table_map_covers_iff (scripted_scriptedSession portsText)
    obtain rfl : ["home port"] = listing := names.symm.trans (Except.ok.inj (Prod.mk.inj done).1)
    refine Prod.ext ?_ stays
    cases outcome : (Call.tableMap.outcome (scriptedSession portsText)).1 with
    | ok infos => exact absurd (described.1 ⟨infos, outcome⟩) (by decide)
    | error failure =>
      obtain ⟨before, first, behind, split, -, -, rfl⟩ := refused failure outcome
      have among : first ∈ ["home port"] := by
        rw [split]
        exact List.mem_append_right _ List.mem_cons_self
      rw [List.mem_singleton.1 among]
  · obtain ⟨listing, done, -, described, each, -⟩ :=
      table_map_covers_iff (scripted_scriptedSession (idsText "ships"))
    obtain rfl : ["ships"] = listing := name.symm.trans (Except.ok.inj (Prod.mk.inj done).1)
    obtain ⟨infos, outcome⟩ := described.2 (by decide)
    exact ⟨infos, outcome, (each infos outcome).1⟩

end Describing

end Registrar
