import Registrar.Proofs.Counters

/-!
# Books of what is in a store

Whoever keeps books of the statements that succeeded knows what is in a store: a declaration enters a
name at the end unless it is there already, a removal strikes it out, and a transaction that is rolled
back takes the books back to what they were when it began.  All that is in a store beyond the books are
the tables of the store itself, whose names are reserved.
-/

namespace Registrar.Sql

open Registrar.Text

/-- What a caller has made: a table, or else a view, of a name. -/
structure Made where
  isTable : Bool
  name : String
deriving DecidableEq

/-- What an item is to the caller who made it. -/
def Item.made : Item → Made
  | .table t => ⟨true, t.name⟩
  | .view v => ⟨false, v.name⟩

/-- What callers have made of what is in a store, in the order of its creation. -/
def Database.made (db : Database) : List Made :=
  (db.items.map Item.made).filter fun made => !isReservedName made.name

/-- Books of a store: what callers have made, and what to go back to while a transaction is open. -/
structure Books where
  made : List Made
  saved : Option (List Made)

namespace Books

/-- The books of a new store. -/
def empty : Books :=
  ⟨[], none⟩

/-- Enters a name, unless it is there already. -/
def enter (made : List Made) (entry : Made) : List Made :=
  if made.any fun other => sameName other.name entry.name then made else made ++ [entry]

/-- The books when a statement has succeeded. -/
def after (books : Books) : Statement → Books
  | .createTable name _ _ _ => { books with made := enter books.made ⟨true, name.name⟩ }
  | .createView name _ _ _ => { books with made := enter books.made ⟨false, name.name⟩ }
  | .drop _ _ name => { books with made := books.made.filter fun made => !sameName made.name name }
  | .begin => { books with saved := some books.made }
  | .commit => { books with saved := none }
  | .rollback => ⟨books.saved.getD books.made, none⟩
  | .select _ | .insert _ _ _ _ | .update _ _ _ _ | .delete _ _ _ | .pragma _ _ => books

end Books

/-- A store with the books that have been kept of it. -/
inductive Store.Booked : Store → Books → Prop
  /-- A new store. -/
  | opened : Booked (.opened .empty) .empty
  /-- A store that is opened again as it was. -/
  | reopened {s : Store} {books : Books} (before : Booked s books) :
    Booked (.opened s.database) ⟨books.made, none⟩
  /-- A store that is opened again without the transaction that was open. -/
  | recovered {s : Store} {books : Books} (before : Booked s books) :
    Booked (.opened s.committed) ⟨books.saved.getD books.made, none⟩
  /-- A store on which a statement has succeeded. -/
  | ran {s after : Store} {books : Books} {source : String} {statement : Statement} {action : Action}
    {parameters : List Cell} {answer : Answer} (before : Booked s books)
    (means : s.prepare source statement = .ok action)
    (done : s.run parameters action = .ok (answer, after)) : Booked after (books.after statement)

/-- The books that tell what is in a store. -/
def Store.books (s : Store) : Books :=
  ⟨s.database.made, s.saved.map Database.made⟩

section Making

variable {db : Database} {name : String}

/-- An item is entered under its name. -/
@[simp] theorem Item.name_made (item : Item) : item.made.name = item.name := by
  cases item <;> rfl

/-- What is added is entered at the end, unless its name is reserved. -/
theorem Database.made_add (db : Database) (item : Item) :
    (db.add item).made = db.made ++ if isReservedName item.name then [] else [item.made] := by
  simp only [Database.made, Database.add, List.map_append, List.filter_append, List.map_singleton]
  cases reserved : isReservedName item.name <;> simp [reserved]

/-- What is taken away is struck out. -/
theorem Database.made_remove (db : Database) (name : String) :
    (db.remove name).made = db.made.filter fun made => !sameName made.name name := by
  simp only [Database.made, Database.remove, List.filter_filter, List.filter_map, Function.comp_def,
    Item.name_made, Bool.and_comm]

/-- A name that is not reserved is in the books exactly if it is in the store. -/
theorem Database.any_made (free : isReservedName name = false) :
    (db.made.any fun made => sameName made.name name) = (db.find? name).isSome := by
  rw [Bool.eq_iff_iff, List.any_eq_true, Database.find?, List.find?_isSome]
  constructor
  · rintro ⟨made, mem, same⟩
    obtain ⟨item, among, rfl⟩ := List.mem_map.1 (List.mem_filter.1 mem).1
    exact ⟨item, among, by simpa using same⟩
  · rintro ⟨item, among, same⟩
    refine ⟨item.made, List.mem_filter.2 ⟨List.mem_map_of_mem among, ?_⟩, by simpa using same⟩
    rw [Item.name_made, isReservedName_congr same, free]
    rfl

/-- The books of different names do not look at rows. -/
theorem endures_made (books : List Made) :
    Endures fun db => db.made = books ∧ db.Distinct where
  replace {db name t changed} holds found shape := by
    refine ⟨?_, persists_distinct.replace holds.2 found shape⟩
    rw [← holds.1, Database.made, Database.made, Database.replace, List.map_map]
    refine congrArg _ (List.map_congr_left fun item mem => ?_)
    rw [Function.comp_apply]
    split
    · next same =>
      -- the item is the table itself, since no other has its name
      have named : changed.name = t.name := (Table.of_shape shape).1
      have own : sameName item.name name = true := by
        rw [sameName_congr same, named]
        exact Database.name_of_table? found
      have here := Database.find?_of_mem holds.2 mem
      rw [Database.find?_congr own, Database.find?_of_table? found] at here
      rw [← Option.some.inj here]
      exact congrArg (Made.mk true) named
    · rfl

end Making

section Running

variable {s after : Store} {db : Database}

/-- A declaration of a table enters it. -/
theorem Database.made_createTable {declaration : String} {written : WrittenName} {ifMissing : Bool}
    {decls : List ColumnDecl} {rules : List TableRule} {left : Database}
    (done : db.createTable declaration written ifMissing decls rules = .ok left) :
    left.made = Books.enter db.made ⟨true, written.name⟩ := by
  obtain ⟨free, checked, done⟩ := bind_eq_ok done
  obtain ⟨unreserved, present⟩ := Database.checkName_cases checked
  rw [Books.enter, Database.any_made unreserved, present]
  cases free with
  | false =>
    rw [← Except.ok.inj done]
    rfl
  | true =>
    obtain ⟨t, declared, done⟩ := bind_eq_ok done
    have named : t.name = written.name := (declared_of_declareTable declared).named
    have counter (db : Database) : (db.add (.table sequenceTable)).made = db.made := by
      rw [Database.made_add, if_pos (show isReservedName (Item.table sequenceTable).name = true by decide),
        List.append_nil]
    have entered (db : Database) : (db.add (.table t)).made = db.made ++ [⟨true, written.name⟩] := by
      rw [Database.made_add, Item.name, named, unreserved]
      exact congrArg (fun name => db.made ++ [Made.mk true name]) named
    rw [← Except.ok.inj done, Database.addTable, entered]
    split
    · rw [counter]
      rfl
    · rfl

/-- A declaration of a view enters it. -/
theorem Database.made_createView {declaration : String} {written : WrittenName} {ifMissing : Bool}
    {columns : List String} {query : Select} {left : Database}
    (done : db.createView declaration written ifMissing columns query = .ok left) :
    left.made = Books.enter db.made ⟨false, written.name⟩ := by
  obtain ⟨free, checked, done⟩ := bind_eq_ok done
  obtain ⟨unreserved, present⟩ := Database.checkName_cases checked
  rw [Books.enter, Database.any_made unreserved, present]
  cases free with
  | false =>
    rw [← Except.ok.inj done]
    rfl
  | true =>
    rw [← Except.ok.inj done, Database.made_add, Item.name, unreserved]
    rfl

/-- A removal that is carried out strikes out what it names. -/
theorem Store.made_drop (distinct : s.database.Distinct) {isView ifPresent : Bool} {name : String}
    {action : Action} {parameters : List Cell} {answer : Answer}
    (means : s.prepareDrop isView ifPresent name = .ok action)
    (done : s.run parameters action = .ok (answer, after)) :
    after.saved = s.saved ∧
      after.database.made = s.database.made.filter fun made => !sameName made.name name := by
  unfold Store.prepareDrop at means
  split at means
  · next none =>
    split at means
    · obtain rfl := Except.ok.inj means
      obtain ⟨-, rfl⟩ := Prod.mk.inj (Except.ok.inj done)
      refine ⟨rfl, (List.filter_eq_self.2 fun made mem => ?_).symm⟩
      obtain ⟨item, among, rfl⟩ := List.mem_map.1 (List.mem_filter.1 mem).1
      simpa using List.find?_eq_none.1 none item among
    · split at means <;> cases means
  · next item found =>
    have named := Database.name_of_find? found
    split at means
    · cases means
    · cases item with
      | table t =>
        have same : sameName t.name name = true := named
        cases isView with
        | true => cases means
        | false =>
          obtain rfl := Except.ok.inj means
          obtain ⟨db, dropped, done⟩ := bind_eq_ok done
          obtain ⟨-, rfl⟩ := Prod.mk.inj (Except.ok.inj done)
          obtain ⟨emptied, ⟨made, -⟩, rfl⟩ :=
            (endures_made s.database.made).of_dropTable ⟨rfl, distinct⟩ dropped
          refine ⟨rfl, ?_⟩
          rw [Database.made_remove, made]
          exact List.filter_congr fun made _ => by rw [sameName_congr_right same]
      | view v =>
        cases isView with
        | false => cases means
        | true =>
          obtain rfl := Except.ok.inj means
          obtain ⟨-, rfl⟩ := Prod.mk.inj (Except.ok.inj done)
          exact ⟨rfl, Database.made_remove _ _⟩

/-- A statement that succeeds leaves a store whose books are kept in the same way. -/
theorem Store.books_of_run (distinct : s.database.Distinct) {source : String} {statement : Statement}
    {action : Action} {parameters : List Cell} {answer : Answer}
    (means : s.prepare source statement = .ok action)
    (done : s.run parameters action = .ok (answer, after)) :
    after.books = s.books.after statement := by
  have kept := endures_made s.database.made
  cases statement with
  | createTable name ifMissing columns rules =>
    obtain ⟨db, creates, means⟩ := bind_eq_ok means
    obtain rfl := Except.ok.inj means
    obtain ⟨-, rfl⟩ := Prod.mk.inj (Except.ok.inj done)
    rw [Store.books, Database.made_createTable creates]
    rfl
  | createView name ifMissing columns query =>
    obtain ⟨db, creates, means⟩ := bind_eq_ok means
    obtain rfl := Except.ok.inj means
    obtain ⟨-, rfl⟩ := Prod.mk.inj (Except.ok.inj done)
    rw [Store.books, Database.made_createView creates]
    rfl
  | drop isView ifPresent name =>
    obtain ⟨saved, made⟩ := Store.made_drop distinct means done
    rw [Store.books, saved, made]
    rfl
  | select query =>
    obtain ⟨plan, -, means⟩ := bind_eq_ok means
    obtain rfl := Except.ok.inj means
    obtain ⟨shown, -, done⟩ := bind_eq_ok done
    obtain ⟨-, rfl⟩ := Prod.mk.inj (Except.ok.inj done)
    rfl
  | insert table columns rows returning =>
    obtain ⟨insertion, -, means⟩ := bind_eq_ok means
    obtain rfl := Except.ok.inj means
    obtain ⟨outcome, ran, done⟩ := bind_eq_ok done
    obtain ⟨-, rfl⟩ := Prod.mk.inj (Except.ok.inj done)
    exact congrArg (Books.mk · _) (kept.insertion ⟨rfl, distinct⟩ ran).1
  | update table assignments condition returning =>
    obtain ⟨revision, -, means⟩ := bind_eq_ok means
    obtain rfl := Except.ok.inj means
    obtain ⟨outcome, ran, done⟩ := bind_eq_ok done
    obtain ⟨-, rfl⟩ := Prod.mk.inj (Except.ok.inj done)
    exact congrArg (Books.mk · _) (kept.revision ⟨rfl, distinct⟩ ran).1
  | delete table condition returning =>
    obtain ⟨removal, -, means⟩ := bind_eq_ok means
    obtain rfl := Except.ok.inj means
    obtain ⟨outcome, ran, done⟩ := bind_eq_ok done
    obtain ⟨-, rfl⟩ := Prod.mk.inj (Except.ok.inj done)
    exact congrArg (Books.mk · _) (kept.removal ⟨rfl, distinct⟩ ran).1
  | begin =>
    obtain rfl := Except.ok.inj means
    simp only [Store.run] at done
    split at done
    · cases done
    · obtain ⟨-, rfl⟩ := Prod.mk.inj (Except.ok.inj done)
      rfl
  | commit =>
    obtain rfl := Except.ok.inj means
    simp only [Store.run] at done
    split at done
    · obtain ⟨-, rfl⟩ := Prod.mk.inj (Except.ok.inj done)
      rfl
    · cases done
  | rollback =>
    obtain rfl := Except.ok.inj means
    simp only [Store.run] at done
    split at done
    · next db saved =>
      obtain ⟨-, rfl⟩ := Prod.mk.inj (Except.ok.inj done)
      rw [Books.after, Store.books, Store.books, saved]
      rfl
    · cases done
  | pragma name value =>
    have still : ∀ on, action = .nothing ∨ action = .showEnforcing ∨ action = .setEnforcing on →
        after.books = s.books := by
      rintro on (rfl | rfl | rfl)
      · obtain ⟨-, rfl⟩ := Prod.mk.inj (Except.ok.inj done)
        rfl
      · obtain ⟨-, rfl⟩ := Prod.mk.inj (Except.ok.inj done)
        rfl
      · simp only [Store.run] at done
        split at done
        · obtain ⟨-, rfl⟩ := Prod.mk.inj (Except.ok.inj done)
          rfl
        · obtain ⟨-, rfl⟩ := Prod.mk.inj (Except.ok.inj done)
          rfl
    simp only [Store.prepare] at means
    split at means
    · split at means
      · next value => exact still (isOn value) (.inr (.inr (Except.ok.inj means).symm))
      · exact still true (.inr (.inl (Except.ok.inj means).symm))
    · exact still true (.inl (Except.ok.inj means).symm)

end Running

section Keeping

variable {s : Store} {books : Books}

/-- A store that books are kept of is one that there can be. -/
theorem Store.Booked.reached (booked : s.Booked books) : s.Reached := by
  induction booked with
  | opened => exact .opened
  | reopened before reached => exact .reopened reached (.inl rfl)
  | recovered before reached => exact .reopened reached (.inr rfl)
  | ran before means done reached => exact .ran reached means done

/-- The books that have been kept tell what is in the store. -/
theorem Store.Booked.books_eq (booked : s.Booked books) : books = s.books := by
  induction booked with
  | opened => rfl
  | reopened before same =>
    rw [same]
    rfl
  | @recovered s books before same =>
    rw [same]
    cases saved : s.saved <;> simp [Store.books, Store.opened, Store.committed, saved]
  | ran before means done same =>
    rw [same]
    exact (Store.books_of_run before.reached.distinct means done).symm

/-- Books can be kept of every store that there can be. -/
theorem Store.Reached.booked (reached : s.Reached) : s.Booked s.books := by
  have kept : ∃ books, s.Booked books := by
    induction reached with
    | opened => exact ⟨_, .opened⟩
    | reopened before kept booked =>
      obtain ⟨books, booked⟩ := booked
      rcases kept with rfl | rfl
      · exact ⟨_, .reopened booked⟩
      · exact ⟨_, .recovered booked⟩
    | ran before means done booked =>
      obtain ⟨books, booked⟩ := booked
      exact ⟨_, .ran booked means done⟩
  obtain ⟨books, booked⟩ := kept
  rw [← booked.books_eq]
  exact booked

end Keeping

end Registrar.Sql
