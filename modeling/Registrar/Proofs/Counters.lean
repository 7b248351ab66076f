import Registrar.Proofs.Accounts.Remembering
import Registrar.Proofs.Sql.Framing

/-!
# Counters

The table of the greatest ids holds a counter for each table that counts.  Making the users anew takes
the counter of the old table away and adds one for the new table; the counters of other tables stay.
So a store that has been initialized is made of its other tables, of their counters and of the users
alone, and dropping the users leads back to these.
-/

namespace Registrar

open Registrar.Text Registrar.Sql Registrar.Sql.Database

namespace Sql

/-- Whether a counter is not one of a table that is named as the users are. -/
def Row.countsOther (row : Row) : Bool :=
  match row.cells.head? with
  | some (.text name) => !sameName name "users"
  | _ => true

namespace Database

/-- The counters of a store. -/
def counters (db : Database) : List Row :=
  ((db.table? sequenceName).map Table.rows).getD []

/-- The counters of other tables than the users. -/
def otherCounts (db : Database) : List (List Cell) :=
  (db.counters.filter Row.countsOther).map Row.cells

/-- A store counts the users from the first once they are dropped: they have a table of exactly their
name, or there is no counter of this name. -/
def StartsOver (db : Database) : Prop :=
  (∃ t, db.table? "users" = some t ∧ t.name = "users") ∨
    ∀ row ∈ db.counters, row.cells.head? ≠ some (.text "users")

section Parts

variable {db : Database} {t u : Table} {item : Item} {name : String}

/-- A table that is put in the place of one just added takes its place at the end. -/
theorem replace_add_own (unnamed : ∀ item ∈ db.items, sameName item.name t.name = false)
    (same : sameName item.name t.name = true) : (db.add item).replace t = db.add (.table t) := by
  have kept : db.items.map (fun item => if sameName item.name t.name then Item.table t else item) =
      db.items := by
    refine (List.map_congr_left fun item mem => ?_).trans (List.map_id _)
    rw [unnamed item mem, if_neg Bool.false_ne_true, id]
  simp only [replace, add, List.map_append, kept, List.map_cons, List.map_nil, same, if_true]

/-- A table of another name may be put in its place before something is added. -/
theorem replace_add_other (other : sameName item.name t.name = false) :
    (db.add item).replace t = (db.replace t).add item := by
  simp only [replace, add, List.map_append, List.map_cons, List.map_nil, other, Bool.false_eq_true,
    if_false]

/-- A name that nothing has is not the name of a table that is put in its place. -/
theorem unnamed_replace (other : sameName t.name name = false)
    (unnamed : ∀ item ∈ db.items, sameName item.name name = false) :
    ∀ item ∈ (db.replace t).items, sameName item.name name = false := by
  intro item mem
  obtain ⟨old, among, rfl⟩ := List.mem_map.1 mem
  split
  · exact other
  · exact unnamed old among

/-- Only the last of the tables stays that are put in the place of each other. -/
theorem replace_replace (same : sameName t.name u.name = true) :
    (db.replace t).replace u = db.replace u := by
  simp only [replace, List.map_map]
  refine congrArg Database.mk (List.map_congr_left fun item _ => ?_)
  rw [Function.comp_apply]
  by_cases own : sameName item.name t.name = true
  · have here : sameName (Item.table t).name u.name = true := same
    rw [if_pos own, if_pos here, if_pos (by rw [sameName_congr own, same])]
  · have apart : sameName item.name u.name = false := by
      rw [← sameName_congr_right same]
      simpa using own
    rw [if_neg own]

/-- What is in a store is found by its name where names are different. -/
theorem find?_of_mem (distinct : db.Distinct) (mem : item ∈ db.items) :
    db.find? item.name = some item := by
  have found : ∀ items : List Item, items.Pairwise (fun a b => sameName a.name b.name = false) →
      item ∈ items → items.find? (fun other => sameName other.name item.name) = some item := by
    intro items apart mem
    induction apart with
    | nil => cases mem
    | @cons other items first _ ih =>
      rcases List.mem_cons.1 mem with rfl | later
      · exact List.find?_cons_of_pos (beq_self_eq_true _)
      · rw [List.find?_cons, first item later, ih later]
  exact found db.items distinct mem

/-- A table may be put in its own place where names are different. -/
theorem replace_self (distinct : db.Distinct) (found : db.table? name = some t) :
    db.replace t = db := by
  refine congrArg Database.mk ((List.map_congr_left fun item mem => ?_).trans (List.map_id _))
  rw [id]
  split
  · next same =>
    -- the first of the name is the table, and the item is the first of its own name
    have named : sameName item.name name = true := by
      rw [sameName_congr same]
      exact name_of_table? found
    have first := find?_of_mem distinct mem
    rw [find?_congr named, find?_of_table? found] at first
    exact Option.some.inj first
  · rfl

/-- What has just been added may be taken away. -/
theorem remove_add (unnamed : ∀ item ∈ db.items, sameName item.name name = false)
    (same : sameName item.name name = true) : (db.add item).remove name = db := by
  have kept : db.items.filter (fun item => !sameName item.name name) = db.items := by
    refine List.filter_eq_self.2 fun item mem => ?_
    rw [unnamed item mem]
    rfl
  simp only [remove, add, List.filter_append, kept, List.filter_cons, same, Bool.not_true,
    Bool.false_eq_true, if_false, List.filter_nil, List.append_nil]

end Parts

section Counting

variable {db after : Database} {t sequence : Table} {name : String}

/-- The counters are in the table of the greatest ids. -/
theorem counters_congr (same : after.table? sequenceName = db.table? sequenceName) :
    after.counters = db.counters := by
  rw [counters, same, counters]

/-- The rows of the table of the greatest ids are the counters. -/
theorem counters_of_table? (found : db.table? sequenceName = some sequence) :
    db.counters = sequence.rows := by
  rw [counters, found]
  rfl

/-- Other rows in the table of the greatest ids are other counters. -/
theorem counters_replace (found : db.table? sequenceName = some sequence) (rows : List Row) :
    (db.replace { sequence with rows }).counters = rows := by
  have own := name_of_table? found
  have put : (db.replace { sequence with rows }).table? sequenceName = some { sequence with rows } :=
    table?_replace found own
  exact counters_of_table? put

/-- Where a table has no counter, nothing is counted for it. -/
theorem counted_of_uncounted (uncounted : ∀ row ∈ db.counters, row.cells.head? ≠ some (.text t.name)) :
    db.counted t = 0 := by
  cases found : db.table? sequenceName with
  | none => rw [counted, found]
  | some sequence =>
    rw [counters_of_table? found] at uncounted
    have none : sequence.rows.find? (fun row => row.cells.head? == some (.text t.name)) = none := by
      refine List.find?_eq_none.2 fun row mem own => uncounted row mem (by simpa using own)
    simp only [counted, found, none]

/-- A table of the greatest ids that has just been added has no counters. -/
theorem counters_withSequence (db : Database) : db.withSequence.counters = db.counters := by
  unfold withSequence
  split
  · next missing =>
    have none := Option.isNone_iff_eq_none.1 missing
    have own : sameName (Item.table sequenceTable).name sequenceName = true := beq_self_eq_true _
    have added : (db.add (.table sequenceTable)).table? sequenceName = some sequenceTable := by
      rw [table?, find?_add, none, own]
      rfl
    rw [counters_of_table? added, counters, table?, none]
    rfl
  · rfl

/-- A table that is forgotten takes its own counter with it. -/
theorem counters_forget (other : sameName sequenceName t.name = false) :
    (db.forget t).counters =
      db.counters.filter fun row => row.cells.head? != some (.text t.name) := by
  rw [forget, counters_congr (table?_remove other)]
  cases found : db.table? sequenceName with
  | none =>
    dsimp only
    rw [counters, found]
    rfl
  | some sequence =>
    rw [counters_of_table? found]
    exact counters_replace found _

/-- Forgetting the users leaves the counters of other tables. -/
theorem otherCounts_forget (same : sameName t.name "users" = true) :
    (db.forget t).otherCounts = db.otherCounts := by
  have other : sameName sequenceName t.name = false := by
    rw [sameName_congr_right same, sameName_comm, sameName_users_sequence]
  rw [otherCounts, otherCounts, counters_forget other, List.filter_filter]
  refine congrArg (List.map Row.cells) (List.filter_congr fun row _ => ?_)
  cases counts : row.countsOther with
  | false => rfl
  | true =>
    have apart : row.cells.head? ≠ some (.text t.name) := by
      intro own
      rw [Row.countsOther, own] at counts
      simp only [same, Bool.not_true, Bool.false_eq_true] at counts
    simpa using apart

/-- A counter of the users does not count for others. -/
theorem countsOther_of_head? (same : sameName name "users" = true) {row : Row}
    (named : row.cells.head? = some (.text name)) : row.countsOther = false := by
  rw [Row.countsOther, named]
  simp only [same, Bool.not_true]

/-- The counters of other tables stay where one of the users is renewed or added. -/
theorem filter_recount (same : sameName name "users" = true) (rows : List Row) (counted : Int)
    (new : Int64) :
    (recount rows name counted new).filter Row.countsOther = rows.filter Row.countsOther := by
  have put (id : Int64) :
      ¬ (Row.mk id [.text name, .integer (Int64.ofInt counted)]).countsOther = true := by
    rw [countsOther_of_head? same rfl]
    exact Bool.false_ne_true
  unfold recount
  split
  · next any =>
    clear any
    induction rows with
    | nil => rfl
    | cons row rows ih =>
      rw [List.map_cons]
      by_cases own : (row.cells.head? == some (.text name)) = true
      · have named : ¬ row.countsOther = true := by
          rw [countsOther_of_head? same (eq_of_beq own)]
          exact Bool.false_ne_true
        rw [if_pos own, List.filter_cons_of_neg (put row.id), List.filter_cons_of_neg named, ih]
      · rw [if_neg own, List.filter_cons, List.filter_cons, ih]
  · rw [List.filter_append, List.filter_cons_of_neg (put new), List.filter_nil, List.append_nil]

/-- What is remembered for the users is not among the counters of other tables. -/
theorem otherCounts_remember (same : sameName t.name "users" = true) (counted : Int) :
    (db.remember t counted).otherCounts = db.otherCounts := by
  cases found : db.table? sequenceName with
  | none =>
    rw [remember, found]
  | some sequence =>
    obtain ⟨new, put⟩ := remember_eq found t counted
    rw [put, otherCounts, counters_replace found, otherCounts, counters_of_table? found]
    exact congrArg (List.map Row.cells) (filter_recount same sequence.rows counted new)

/-- Where nothing is remembered for a table yet, a counter is added for it. -/
theorem recount_new {rows : List Row}
    (new : ∀ row ∈ rows, row.cells.head? ≠ some (.text name)) (counted : Int) (id : Int64) :
    recount rows name counted id =
      rows ++ [⟨id, [.text name, .integer (Int64.ofInt counted)]⟩] := by
  refine if_neg fun any => ?_
  obtain ⟨row, mem, own⟩ := List.any_eq_true.1 any
  exact new row mem (by simpa using own)

/-- Forgetting a table that has just been added with its counter leads back to the store before. -/
theorem forget_added (distinct : db.Distinct) (found : db.table? sequenceName = some sequence)
    (unnamed : ∀ item ∈ db.items, sameName item.name t.name = false)
    (uncounted : ∀ row ∈ sequence.rows, row.cells.head? ≠ some (.text t.name)) {counter : Row}
    (own : counter.cells.head? = some (.text t.name)) {item : Item}
    (same : sameName item.name t.name = true) :
    ((db.replace { sequence with rows := sequence.rows ++ [counter] }).add item).forget t = db := by
  let grown : Table := { sequence with rows := sequence.rows ++ [counter] }
  have named := name_of_table? found
  have apart : sameName item.name sequence.name = false := by
    rw [sameName_congr same, sameName_comm]
    exact unnamed (.table sequence) (List.mem_of_find?_eq_some (find?_of_table? found))
  have put : (db.replace grown).table? sequenceName = some grown := table?_replace found named
  have kept : ((db.replace grown).add item).table? sequenceName = some grown := by
    rw [table?, find?_add, find?_of_table? put]
    rfl
  have back : (sequence.rows ++ [counter]).filter (fun row => row.cells.head? != some (.text t.name)) =
      sequence.rows := by
    have all : sequence.rows.filter (fun row => row.cells.head? != some (.text t.name)) =
        sequence.rows := List.filter_eq_self.2 fun row mem => bne_iff_ne.2 (uncounted row mem)
    rw [List.filter_append, all, List.filter_cons_of_neg (by simp [own]), List.filter_nil,
      List.append_nil]
  have restored : ((db.replace grown).add item).replace { grown with
      rows := grown.rows.filter fun row => row.cells.head? != some (.text t.name) } =
        db.add item := by
    show ((db.replace grown).add item).replace { sequence with
      rows := (sequence.rows ++ [counter]).filter fun row => row.cells.head? != some (.text t.name) } = _
    have again : (db.replace grown).replace sequence = db.replace sequence :=
      replace_replace (beq_self_eq_true _)
    rw [back, replace_add_other apart, again, replace_self distinct found]
  rw [forget, kept]
  dsimp only
  rw [restored]
  exact remove_add unnamed same

end Counting

end Database

end Sql

end Registrar
