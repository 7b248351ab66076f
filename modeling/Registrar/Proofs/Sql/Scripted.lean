import Registrar.Proofs.Mutation
import Registrar.Proofs.Sql.Shapes

/-!
# Stores made by texts

A statement that a text writes says more than any statement could: a declaration of a table has a
column.  So a table of a store that only texts have made has the columns that the text of its
declaration names, in their order, and at least one; but for the tables of the store itself, which no
text declares.
-/

namespace Registrar.Sql

open Registrar.Text

section Reading

/-- A declaration of a table has a column. -/
def Statement.HasColumns : Statement → Prop
  | .createTable _ _ columns _ => columns ≠ []
  | _ => True

/-- What is read between the parentheses of a declaration has a column. -/
theorem columns_of_readBody {sql : List Char} {fuel : Nat} {ts rest : List Token}
    {columns : List ColumnDecl} {rules : List TableRule}
    (read : readBody sql fuel ts = .ok ((columns, rules), rest)) : columns ≠ [] := by
  cases fuel with
  | zero => cases read
  | succ fuel =>
    obtain ⟨⟨column, behind⟩, -, read⟩ := bind_eq_ok read
    dsimp only at read
    split at read
    · rw [← (Prod.mk.inj (Prod.mk.inj (Except.ok.inj read)).1).1]
      exact List.cons_ne_nil _ _
    · obtain ⟨behind, -, read⟩ := bind_eq_ok read
      split at read
      · obtain ⟨found, -, read⟩ := bind_eq_ok read
        rw [← (Prod.mk.inj (Prod.mk.inj (Except.ok.inj read)).1).1]
        exact List.cons_ne_nil _ _
      · obtain ⟨found, -, read⟩ := bind_eq_ok read
        rw [← (Prod.mk.inj (Prod.mk.inj (Except.ok.inj read)).1).1]
        exact List.cons_ne_nil _ _

/-- A declaration of a table that is read has a column. -/
theorem readsKind_create (sql : List Char) (ts : List Token) :
    ReadsKind Statement.HasColumns (readCreate sql ts) := by
  unfold readCreate
  split
  · exact .bind fun _ _ => .bind fun _ _ => .bind fun _ _ => .bind fun _ read =>
      .ok (columns_of_readBody read)
  · have query (name : WrittenName) (ifMissing : Bool) (columns : List String) (rest : List Token) :
        ReadsKind Statement.HasColumns (expectWord "AS" rest >>= fun rest =>
          expectWord "SELECT" rest >>= fun rest => readSelect sql rest >>= fun found =>
            .ok (.createView name ifMissing columns found.1, found.2)) :=
      .bind fun _ _ => .bind fun _ _ => .bind fun _ _ => .ok trivial
    refine .bind fun _ _ => .bind fun _ _ => .bind fun _ _ => ?_
    dsimp only
    split
    · exact .bind fun _ _ => query _ _ _ _
    · exact .bind fun _ _ => query _ _ _ _

/-- A change of rows declares nothing. -/
theorem Statement.ChangesRows.hasColumns {statement : Statement} (changes : statement.ChangesRows) :
    statement.HasColumns := by
  cases statement with
  | createTable name ifMissing columns rules => cases changes
  | _ => trivial

/-- A removal declares nothing. -/
theorem readsKind_drop (ts : List Token) : ReadsKind Statement.HasColumns (readDrop ts) := by
  refine .bind fun _ _ => ?_
  dsimp only
  split
  · exact .bind fun _ _ => .bind fun _ _ => .bind fun _ _ => .ok trivial
  · exact .bind fun _ _ => .bind fun _ _ => .ok trivial

/-- A setting declares nothing. -/
theorem readsKind_pragma (ts : List Token) : ReadsKind Statement.HasColumns (readPragma ts) := by
  refine .bind fun _ _ => ?_
  dsimp only
  split
  · exact .ok trivial
  · exact .bind fun _ _ => .ok trivial
  · exact nofun
  · exact nofun
  · exact .ok trivial

/-- Whatever statement is read, a declaration of a table has a column. -/
theorem readsKind_hasColumns (sql : List Char) (ts : List Token) :
    ReadsKind Statement.HasColumns (readStatement sql ts) := by
  cases ts with
  | nil => exact nofun
  | cons t ts =>
    unfold readStatement
    dsimp only
    split
    · exact nofun
    · split
      · exact .bind fun _ _ => .ok trivial
      · exact (readsKind_insert sql ts).mono fun _ inserts => inserts.changesRows.hasColumns
      · exact (readsKind_update sql ts).mono fun _ changes => changes.hasColumns
      · exact (readsKind_delete sql ts).mono fun _ changes => changes.hasColumns
      · exact readsKind_create sql ts
      · exact readsKind_drop ts
      · exact readsKind_pragma ts
      · exact .ok trivial
      · exact .ok trivial
      · exact .ok trivial
      · exact .ok trivial
      · exact nofun

/-- A declaration of a table that a text writes has a column. -/
theorem hasColumns_of_parse {sql : String} {parsed : Parsed} {statement : Statement}
    (read : parse sql = .ok parsed) (found : parsed.statement = some statement) :
    statement.HasColumns := by
  unfold parse at read
  dsimp only at read
  split at read
  · rw [← Except.ok.inj read] at found
    cases found
  · split at read
    · cases read
    · next result left readWhole =>
      have own := readsKind_hasColumns _ _ _ readWhole
      split at read
      · rw [← Except.ok.inj read] at found
        rwa [← Option.some.inj found]
      · split at read
        · rw [← Except.ok.inj read] at found
          rwa [← Option.some.inj found]
        · cases read

end Reading

section Declaring

variable {name declaration : String} {decls : List ColumnDecl} {t : Table}

/-- The name of a column and its type as it is shown. -/
def Column.heading (c : Column) : String × String :=
  (c.name, c.declared)

/-- The name of a column that is declared and its type as it will be shown. -/
def ColumnDecl.heading (decl : ColumnDecl) : String × String :=
  (decl.name, shownType decl.declared)

/-- The columns that are declared are those of the declarations, in their order. -/
theorem headings_declareColumns {known columns : List Column}
    (done : declareColumns known decls = .ok columns) :
    columns.map Column.heading = known.map Column.heading ++ decls.map ColumnDecl.heading := by
  induction decls generalizing known with
  | nil =>
    rw [← Except.ok.inj done, List.map_nil, List.append_nil]
  | cons decl decls ih =>
    rw [declareColumns] at done
    split at done
    · cases done
    · obtain ⟨column, ruled, done⟩ := bind_eq_ok done
      obtain ⟨names, type, -⟩ := of_column ruled
      have own : column.heading = decl.heading := Prod.ext names type
      rw [ih done, List.map_append, List.map_singleton, own, List.append_assoc]
      rfl

/-- A primary key changes neither the names nor the types of the columns. -/
theorem headings_withKeyPlaces (t : Table) (columns : List Nat) :
    (t.withKeyPlaces columns).columns.map Column.heading = t.columns.map Column.heading := by
  refine List.ext_getElem ?_ fun i within _ => ?_
  · rw [List.length_map, List.length_map, Table.length_withKeyPlaces]
  · rw [List.length_map] at within
    obtain ⟨d, place, there, same⟩ := Table.of_withKeyPlaces (List.getElem?_eq_getElem within)
    obtain ⟨_, rfl⟩ := List.getElem?_eq_some_iff.1 there
    rw [List.getElem_map, List.getElem_map, same]
    rfl

/-- A table keeps its declaration, and has the columns of it in their order. -/
theorem headings_declareTable {rules : List TableRule}
    (done : declareTable name declaration decls rules = .ok t) :
    t.declaration = declaration ∧
      t.columns.map Column.heading = decls.map ColumnDecl.heading := by
  refine Declaring.of_declareTable_unchecked
    (P := fun t => t.declaration = declaration ∧
      t.columns.map Column.heading = decls.map ColumnDecl.heading)
    (fun holds _ _ columns _ text => ?_) (fun holds key => ?_) (fun columns listed => ?_) done
  · rw [text, columns]
    exact holds
  · obtain ⟨columns, text⟩ := of_addPrimaryKey key
    rw [text, columns, headings_withKeyPlaces]
    exact holds
  · exact ⟨rfl, headings_declareColumns listed⟩

/-- A table has the columns that a text declares, in the order of the declaration. -/
structure Table.IsWritten (t : Table) (decls : List ColumnDecl) : Prop where
  text : ∃ sql parsed written ifMissing rules, parse sql = .ok parsed ∧
    parsed.statement = some (.createTable written ifMissing decls rules) ∧
    t.declaration = parsed.source ∧ t.name = written.name
  columns : t.columns.map Column.heading = decls.map ColumnDecl.heading

/-- A table that a text declares has a column. -/
theorem Table.IsWritten.columns_ne_nil (written : t.IsWritten decls) : t.columns ≠ [] := by
  obtain ⟨sql, parsed, _, ifMissing, rules, read, found, -, -⟩ := written.text
  have some : decls ≠ [] := hasColumns_of_parse read found
  intro none
  have headings := written.columns
  rw [none] at headings
  exact some (List.map_eq_nil_iff.1 headings.symm)

/-- A table of a reserved name, one that a text has declared, or a view. -/
def Item.IsWritten : Item → Prop
  | .table t => isReservedName t.name = true ∨ ∃ decls, t.IsWritten decls
  | .view _ => True

/-- What texts have declared does not depend on rows. -/
theorem lasting_isWritten : Lasting Item.IsWritten := by
  intro t u same written
  obtain ⟨names, columns, -⟩ := Table.of_shape same
  have texts : u.declaration = t.declaration := by
    show u.shape.declaration = t.shape.declaration
    rw [same]
  rcases written with reserved | ⟨decls, text, headings⟩
  · refine .inl ?_
    rw [names]
    exact reserved
  · refine .inr ⟨decls, ?_, ?_⟩
    · rw [names, texts]
      exact text
    · rw [columns]
      exact headings

end Declaring

/-- The stores that the statements of texts make. -/
inductive Store.Scripted : Store → Prop
  /-- A new store. -/
  | opened : Scripted (.opened .empty)
  /-- A store that is opened again, with the tables that were kept. -/
  | reopened {s : Store} {db : Database} (before : Scripted s)
    (kept : db = s.database ∨ db = s.committed) : Scripted (.opened db)
  /-- What the first statement of a text makes of a store. -/
  | ran {s after : Store} {sql : String} {ready : Ready} {action : Action} {parameters : List Cell}
    {answer : Answer} (before : Scripted s) (means : s.ready sql = .ok ready)
    (acts : ready.action = some action) (done : s.run parameters action = .ok (answer, after)) :
    Scripted after

namespace Store.Scripted

variable {s : Store}

/-- A store that texts make is one that there can be. -/
theorem reached (scripted : s.Scripted) : s.Reached := by
  induction scripted with
  | opened => exact .opened
  | reopened before kept reached => exact .reopened reached kept
  | ran before means acts done reached =>
    obtain ⟨parsed, statement, -, -, prepared⟩ := of_ready means acts
    exact .ran reached prepared done

/-- A script makes a store that texts make of one. -/
theorem runScript (fuel : Nat) {sql : String} (scripted : s.Scripted) :
    (Store.runScript fuel s sql).1.Scripted := by
  induction fuel generalizing s sql with
  | zero => exact scripted
  | succ fuel ih =>
    rw [Store.runScript]
    split
    · exact scripted
    · next ready means =>
      split
      · exact scripted
      · next action acts =>
        split
        · exact scripted
        · next answer after done =>
          have later := scripted.ran means acts (run_of_runReady done)
          split
          · exact later
          · exact ih later

/-- What a text declares has the columns of the declaration. -/
theorem isWritten_of_prepare {sql : String} {parsed : Parsed} {statement : Statement} {db : Database}
    (all : s.database.All Item.IsWritten) (read : parse sql = .ok parsed)
    (found : parsed.statement = some statement)
    (means : s.prepare parsed.source statement = .ok (.become db)) : db.All Item.IsWritten := by
  rcases become_of_prepare means with ⟨name, ifMissing, columns, rules, rfl, creates⟩ |
    ⟨_, _, _, _, -, creates⟩ | ⟨name, rfl⟩
  · refine all_of_createTable all (.inl (by decide)) (fun t declared => .inr ⟨columns, ?_⟩) creates
    have named : t.name = name.name := (declared_of_declareTable declared).named
    obtain ⟨text, headings⟩ := headings_declareTable declared
    exact ⟨⟨sql, parsed, name, ifMissing, rules, read, found, text, named⟩, headings⟩
  · exact all_of_createView all trivial creates
  · exact all.remove name

/-- The tables of a store that texts make have the columns of their declarations, but for the tables of
the store itself. -/
theorem isWritten (scripted : s.Scripted) : s.database.All Item.IsWritten ∧
    ∀ db, s.saved = some db → db.All Item.IsWritten := by
  induction scripted with
  | opened => exact ⟨nofun, nofun⟩
  | @reopened s db before kept holds =>
    refine ⟨?_, nofun⟩
    rcases kept with rfl | rfl
    · exact holds.1
    · exact Store.of_committed holds.1 holds.2
  | ran before means acts done holds =>
    obtain ⟨parsed, statement, read, found, prepared⟩ := of_ready means acts
    refine lasting_isWritten.persists.run holds.1 holds.2 (fun db same => ?_) (Store.ran_of_run done)
    subst same
    exact isWritten_of_prepare holds.1 read found prepared

end Store.Scripted

end Registrar.Sql
