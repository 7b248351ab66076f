import Registrar.Proofs.Reach

/-!
# What lasts

Changes of rows leave what was declared: a table has the shape that its declaration gave it as long as
it is there.  So a property of tables that does not look at their rows, and that declared tables have,
is one of all tables of every store that there can be.
-/

namespace Registrar.Sql

/-- All that is in a store has a property. -/
def Database.All (P : Item → Prop) (db : Database) : Prop :=
  ∀ item ∈ db.items, P item

/-- A property that does not depend on the rows of a table. -/
def Lasting (P : Item → Prop) : Prop :=
  ∀ t u : Table, u.shape = t.shape → P (.table t) → P (.table u)

namespace Database.All

variable {P : Item → Prop} {db : Database} {t : Table} {name : String}

/-- A table that is found has the property. -/
theorem of_table? (all : db.All P) (found : db.table? name = some t) : P (.table t) := by
  rw [Database.table?] at found
  split at found
  · next here =>
    obtain rfl := Option.some.inj found
    have among : Item.table _ ∈ db.items := List.mem_of_find?_eq_some here
    exact all _ among
  · cases found

/-- The property is kept where other rows are put in the place of those of a table. -/
theorem replace (all : db.All P) (lasting : Lasting P) (found : db.table? name = some t)
    {changed : Table} (same : changed.shape = t.shape) : (db.replace changed).All P := by
  intro item mem
  obtain ⟨source, among, rfl⟩ := List.mem_map.1 mem
  split
  · exact lasting t changed same (all.of_table? found)
  · exact all source among

/-- The property is kept where an item is taken away. -/
theorem remove (all : db.All P) (name : String) : (db.remove name).All P :=
  fun item mem => all item (List.mem_filter.1 mem).1

/-- The property is kept where an item is added that has it. -/
theorem add (all : db.All P) {item : Item} (has : P item) : (db.add item).All P := by
  intro other mem
  rcases List.mem_append.1 mem with mem | mem
  · exact all other mem
  · rw [List.mem_singleton.1 mem]
    exact has

end Database.All

/-- A property of all that is in a store which does not depend on rows: it is kept where other rows are
put in the place of those of a table. -/
structure Endures (Q : Database → Prop) : Prop where
  replace : ∀ {db name t changed}, Q db → db.table? name = some t → changed.shape = t.shape →
    Q (db.replace changed)

/-- A property that does not depend on rows, and that is kept where an item is taken away. -/
structure Persists (Q : Database → Prop) : Prop extends Endures Q where
  remove : ∀ {db} name, Q db → Q (db.remove name)

/-- What lasts is kept for all that is in a store. -/
theorem Lasting.persists {P : Item → Prop} (lasting : Lasting P) : Persists (Database.All P) :=
  ⟨⟨fun all found same => all.replace lasting found same⟩, fun name all => all.remove name⟩

/-- Inserting rows leaves the shape of a table as it is. -/
theorem shape_insertAll {env : Env} {targets : List (Option Nat)} {values : List (List Expr)}
    {t grown : Table} {counted last : Int} {rows : List Row}
    (done : insertAll env targets t counted values = .ok (grown, last, rows)) :
    grown.shape = t.shape := by
  induction values generalizing t counted rows with
  | nil =>
    rw [← (Prod.mk.inj (Except.ok.inj done)).1]
  | cons value values ih =>
    obtain ⟨⟨first, row⟩, one, done⟩ := bind_eq_ok done
    obtain ⟨⟨others, counted', more⟩, rest, done⟩ := bind_eq_ok done
    obtain ⟨rfl, counts⟩ := Prod.mk.inj (Except.ok.inj done)
    obtain ⟨rfl, -⟩ := Prod.mk.inj counts
    obtain ⟨-, -, -, -, -, -, -, grows⟩ := insertOne_cases one
    rw [ih rest, grows]
    rfl

namespace Endures

variable {Q : Database → Prop} {db after : Database} {env : Env} {enforcing : Bool}

/-- The property is kept where the greatest id of a table is remembered. -/
theorem remember (endures : Endures Q) (holds : Q db) (t : Table) (counted : Int) :
    Q (db.remember t counted) := by
  unfold Database.remember
  split
  · exact holds
  · next sequence found => exact endures.replace holds found rfl

/-- The property is kept where the greatest id of a table is forgotten. -/
theorem forgotten (endures : Endures Q) (holds : Q db) (t : Table) :
    Q (match db.table? sequenceName with
      | some sequence => db.replace { sequence with
          rows := sequence.rows.filter fun row => row.cells.head? != some (Cell.text t.name) }
      | none => db) := by
  split
  · next sequence found => exact endures.replace holds found rfl
  · exact holds

/-- The property withstands changes of single rows. -/
theorem withstands (endures : Endures Q) : Withstands (fun _ => True) (fun _ _ => True) Q where
  referring _ _ _ _ _ := trivial
  rows _ _ _ _ _ := trivial
  dropped holds _ found _ := endures.replace holds found rfl
  exchanged holds _ found _ _ _ _ _ := endures.replace holds found rfl

/-- The property is kept by an insertion. -/
theorem insertion (endures : Endures Q) (holds : Q db) {insertion : Insertion} {outcome : Outcome}
    (done : insertion.run db enforcing env = .ok outcome) : Q outcome.database := by
  unfold Insertion.run at done
  split at done
  · cases done
  · next t found =>
    obtain ⟨⟨grown, counted, rows⟩, inserted, done⟩ := bind_eq_ok done
    have stored := endures.replace holds found (shape_insertAll inserted)
    have counts : Q (if t.counting then (db.replace grown).remember t counted
        else db.replace grown) := by
      split
      · exact endures.remember stored t counted
      · exact stored
    dsimp only at done
    generalize (if t.counting then (db.replace grown).remember t counted
      else db.replace grown) = changed at done counts
    cases enforcing with
    | false =>
      obtain ⟨answer, -, done⟩ := bind_eq_ok done
      rw [← Except.ok.inj done]
      exact counts
    | true =>
      obtain ⟨_, -, done⟩ := bind_eq_ok done
      obtain ⟨answer, -, done⟩ := bind_eq_ok done
      rw [← Except.ok.inj done]
      exact counts

/-- The property is kept by a change of rows. -/
theorem revision (endures : Endures Q) (holds : Q db) {revision : Revision} {outcome : Outcome}
    (done : revision.run db enforcing env = .ok outcome) : Q outcome.database := by
  unfold Revision.run at done
  split at done
  · cases done
  · obtain ⟨chosen, -, done⟩ := bind_eq_ok done
    obtain ⟨⟨changed, rows⟩, revised, done⟩ := bind_eq_ok done
    have kept := endures.withstands.reviseAll holds trivial (fun _ _ => trivial) revised
    cases enforcing with
    | false =>
      obtain ⟨answer, -, done⟩ := bind_eq_ok done
      rw [← Except.ok.inj done]
      exact kept
    | true =>
      obtain ⟨_, -, done⟩ := bind_eq_ok done
      obtain ⟨answer, -, done⟩ := bind_eq_ok done
      rw [← Except.ok.inj done]
      exact kept

/-- The property is kept by a removal of rows. -/
theorem removal (endures : Endures Q) (holds : Q db) {removal : Removal} {outcome : Outcome}
    (done : removal.run db enforcing env = .ok outcome) : Q outcome.database := by
  unfold Removal.run at done
  split at done
  · cases done
  · obtain ⟨chosen, -, done⟩ := bind_eq_ok done
    obtain ⟨⟨changed, rows⟩, removed, done⟩ := bind_eq_ok done
    have kept := endures.withstands.removeAll holds trivial removed
    cases enforcing with
    | false =>
      obtain ⟨answer, -, done⟩ := bind_eq_ok done
      rw [← Except.ok.inj done]
      exact kept
    | true =>
      obtain ⟨_, -, done⟩ := bind_eq_ok done
      obtain ⟨answer, -, done⟩ := bind_eq_ok done
      rw [← Except.ok.inj done]
      exact kept

/-- A table is removed once its rows and its greatest id are, so the property holds just before. -/
theorem of_dropTable (endures : Endures Q) (holds : Q db) {t : Table}
    (done : db.dropTable enforcing env t = .ok after) :
    ∃ emptied, Q emptied ∧ after = emptied.remove t.name := by
  unfold Database.dropTable at done
  split at done
  · obtain ⟨⟨emptied, rows⟩, removed, done⟩ := bind_eq_ok done
    obtain ⟨_, -, done⟩ := bind_eq_ok done
    have kept := endures.withstands.removeAll holds trivial removed
    exact ⟨_, endures.forgotten kept t, (Except.ok.inj done).symm⟩
  · exact ⟨_, endures.forgotten holds t, (Except.ok.inj done).symm⟩

end Endures

namespace Persists

variable {Q : Database → Prop} {db after : Database} {env : Env} {enforcing : Bool}

/-- The property is kept where a table is removed. -/
theorem dropTable (persists : Persists Q) (holds : Q db) {t : Table}
    (done : db.dropTable enforcing env t = .ok after) : Q after := by
  obtain ⟨emptied, kept, rfl⟩ := persists.of_dropTable holds done
  exact persists.remove t.name kept

/-- The property is kept by a statement, if what it declares has it. -/
theorem run (persists : Persists Q) {s left : Store} {action : Action} {parameters : List Cell}
    (holds : Q s.database) (saved : ∀ db, s.saved = some db → Q db)
    (becomes : ∀ db, action = .become db → Q db) (ran : s.Ran parameters action left) :
    Q left.database ∧ ∀ db, left.saved = some db → Q db := by
  cases ran with
  | inserted ran => exact ⟨persists.insertion holds ran, saved⟩
  | updated ran => exact ⟨persists.revision holds ran, saved⟩
  | deleted ran => exact ⟨persists.removal holds ran, saved⟩
  | became db => exact ⟨becomes db rfl, saved⟩
  | dropped dropped => exact ⟨persists.dropTable holds dropped, saved⟩
  | begun => exact ⟨holds, fun db same => Option.some.inj same ▸ holds⟩
  | committed => exact ⟨holds, nofun⟩
  | rolledBack kept => exact ⟨saved _ kept, nofun⟩
  | set => exact ⟨holds, saved⟩
  | still => exact ⟨holds, saved⟩

/-- What persists and what declarations keep is what every store has that there can be. -/
theorem reached (persists : Persists Q) (empty : Q .empty)
    (declares : ∀ {s : Store} {source db}, s.Reached → Q s.database → s.Declares source db → Q db)
    {s : Store} (reached : s.Reached) : Q s.database ∧ ∀ db, s.saved = some db → Q db := by
  induction reached with
  | opened => exact ⟨empty, nofun⟩
  | @reopened s db before kept holds =>
    refine ⟨?_, nofun⟩
    rcases kept with rfl | rfl
    · exact holds.1
    · exact Store.of_committed holds.1 holds.2
  | ran before means done holds =>
    refine persists.run holds.1 holds.2 (fun db same => ?_) (Store.ran_of_run done)
    subst same
    exact declares before holds.1 (Store.declares_of_prepare means)

end Persists

section Declarations

variable {P : Item → Prop} {db after : Database} {s : Store}

/-- What lasts is kept by a declaration of a table that has it. -/
theorem all_of_createTable (all : db.All P) (counter : P (.table sequenceTable))
    {declaration : String} {written : WrittenName} {ifMissing : Bool} {decls : List ColumnDecl}
    {rules : List TableRule}
    (declares : ∀ t, declareTable written.name declaration decls rules = .ok t → P (.table t))
    (done : db.createTable declaration written ifMissing decls rules = .ok after) : after.All P := by
  obtain ⟨free, -, done⟩ := bind_eq_ok done
  cases free with
  | false =>
    rw [← Except.ok.inj done]
    exact all
  | true =>
    obtain ⟨t, declared, done⟩ := bind_eq_ok done
    rw [← Except.ok.inj done, Database.addTable]
    split
    · exact (all.add counter).add (declares t declared)
    · exact all.add (declares t declared)

/-- What lasts is kept by a declaration of a view that has it. -/
theorem all_of_createView (all : db.All P) {declaration : String} {written : WrittenName}
    {ifMissing : Bool} {columns : List String} {query : Select}
    (has : P (.view ⟨written.name, declaration, columns, query⟩))
    (done : db.createView declaration written ifMissing columns query = .ok after) : after.All P := by
  obtain ⟨free, -, done⟩ := bind_eq_ok done
  cases free with
  | false =>
    rw [← Except.ok.inj done]
    exact all
  | true =>
    rw [← Except.ok.inj done]
    exact all.add has

/-- What lasts and what declared tables have is what the tables of every store have that there can
be. -/
theorem Store.Reached.all (lasting : Lasting P) (counter : P (.table sequenceTable))
    (declares : ∀ {name declaration decls rules t},
      declareTable name declaration decls rules = .ok t → P (.table t))
    (views : ∀ v, P (.view v)) (reached : s.Reached) :
    s.database.All P ∧ ∀ db, s.saved = some db → db.All P := by
  refine lasting.persists.reached nofun (fun _ all declared => ?_) reached
  cases declared with
  | table creates => exact all_of_createTable all counter (fun t done => declares done) creates
  | view creates => exact all_of_createView all (views _) creates
  | removal name => exact all.remove name

end Declarations

end Registrar.Sql
