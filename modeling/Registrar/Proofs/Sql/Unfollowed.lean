import Mathlib.Data.List.Forall2
import Registrar.Proofs.Sql.Choosing

/-!
# Changes that nothing follows

The removal and the change of rows of a table that no row of another table follows: whatever refers
to the table refuses.  Then the rows of the table are all that becomes different.  The rows that are
removed are the ones that are to be removed, and the others stay in their order; each row that is
changed has a new one in its place, and the ids of all are different.
-/

namespace Registrar.Sql

open Registrar.Text

variable {before db after : Database} {name : String} {t : Table} {rows : List Row} {env : Env}
  {enforcing : Bool}

/-- No row of another table follows those of a table: references refuse. -/
def Database.Unfollowed (db : Database) (name : String) : Prop :=
  ∀ entry ∈ db.referencesTo name,
    entry.2.reference.onDelete = .refuse ∧ entry.2.reference.onUpdate = .refuse

/-- Where references refuse, nothing follows. -/
theorem follow_refused {fuel : Nat} {parent : Table} {old : Row} {new : Option Row}
    {references : List (Table × ForeignKey)}
    (refuse : ∀ entry ∈ references,
      entry.2.reference.onDelete = .refuse ∧ entry.2.reference.onUpdate = .refuse)
    (done : Database.follow env fuel parent old new references db = .ok after) : after = db := by
  induction references generalizing fuel with
  | nil =>
    cases fuel with
    | zero => cases done
    | succ fuel =>
      rw [Database.follow] at done
      exact (Except.ok.inj done).symm
  | cons entry references ih =>
    obtain ⟨child, fk⟩ := entry
    obtain ⟨⟨onDelete, onUpdate⟩, others⟩ := List.forall_mem_cons.1 refuse
    dsimp only at onDelete onUpdate
    cases fuel with
    | zero => cases done
    | succ fuel =>
      rw [Database.follow] at done
      split at done
      · exact ih others done
      · simp only [onDelete, onUpdate, ite_self, beq_self_eq_true, Bool.true_or, if_true] at done
        exact ih others done

/-- What is in a store is what is in another, except for the rows of a table. -/
structure Database.DiffersInRows (before : Database) (name : String) (t : Table) (rows : List Row)
    (db : Database) : Prop where
  found : db.table? name = some { t with rows }
  others : ∀ other, sameName name other = false → db.find? other = before.find? other

/-- A store differs from another in the rows of a table only, which nothing follows. -/
structure Database.HasRows (before : Database) (name : String) (t : Table) (rows : List Row)
    (db : Database) : Prop extends before.DiffersInRows name t rows db where
  unfollowed : db.Unfollowed name

namespace Database.HasRows

/-- A store has the rows that it has. -/
theorem refl (found : before.table? name = some t) (unfollowed : before.Unfollowed name) :
    before.HasRows name t t.rows before :=
  ⟨⟨found, fun _ _ => rfl⟩, unfollowed⟩

/-- The table is one of the store's. -/
theorem mem_tables (has : before.HasRows name t rows db) : { t with rows } ∈ db.tables := by
  have found := has.found
  rw [Database.table?] at found
  split at found
  · next here =>
    have among := List.mem_of_find?_eq_some here
    exact List.mem_filterMap.2 ⟨_, among, found⟩
  · cases found

/-- The table keeps its name. -/
theorem named (has : before.HasRows name t rows db) : sameName t.name name = true := by
  have own := name_of_table? has.found
  exact own

/-- Other rows may be put in the place of those of the table. -/
theorem replace (has : before.HasRows name t rows db) (new : List Row) :
    before.HasRows name t new (db.replace { t with rows := new }) := by
  refine ⟨⟨table?_replace has.found has.named, fun other differs => ?_⟩, ?_⟩
  · have apart : sameName t.name other = false := by rw [sameName_congr has.named, differs]
    have same : (db.replace { t with rows := new }).find? other = db.find? other :=
      find?_replace_other apart
    rw [same, has.others other differs]
  · intro entry mem
    obtain ⟨u, among, mem⟩ := List.mem_flatMap.1 mem
    obtain ⟨fk, chosen, rfl⟩ := List.mem_map.1 mem
    rcases mem_tables_replace among with rfl | among
    · exact has.unfollowed ({ t with rows }, fk)
        (List.mem_flatMap.2 ⟨_, has.mem_tables, List.mem_map.2 ⟨fk, chosen, rfl⟩⟩)
    · exact has.unfollowed (u, fk) (List.mem_flatMap.2 ⟨u, among, List.mem_map.2 ⟨fk, chosen, rfl⟩⟩)

/-- Nothing follows the change or the removal of a row, whatever comes behind. -/
theorem settled {α : Type} (has : before.HasRows name t rows db) {fuel : Nat} {parent : Table}
    {old : Row} {new : Option Row} {next : Database → Except Problem α} {a : α}
    (done : (if enforcing = true then
        Database.follow env fuel parent old new (db.referencesTo name) db >>= next
      else pure db >>= next) = .ok a) : next db = .ok a := by
  cases enforcing with
  | false => exact done
  | true =>
    obtain ⟨middle, followed, done⟩ := bind_eq_ok done
    rwa [follow_refused has.unfollowed followed] at done

/-- A table may be called by any name of the same letters. -/
theorem renamed (has : before.HasRows name t rows db) {written : String}
    (same : sameName name written = true) : before.DiffersInRows written t rows db := by
  refine ⟨by rw [← table?_congr same, has.found], fun other differs => has.others other ?_⟩
  rw [sameName_congr same, differs]

end Database.HasRows

section Removing

/-- Rows of which no two have one id are taken away, and no others; the ones that stay stay in their
order. -/
theorem of_removeAll {chosen removed : List Row} (has : before.HasRows name t rows db)
    (distinct : (rows.map Row.id).Nodup) (among : ∀ row ∈ chosen, row ∈ rows)
    (apart : (chosen.map Row.id).Nodup)
    (done : removeAll env enforcing name db chosen = .ok (after, removed)) :
    removed = chosen ∧ before.HasRows name t
      (rows.filter fun row => !(chosen.map Row.id).contains row.id) after := by
  induction chosen generalizing db rows removed with
  | nil =>
    obtain ⟨rfl, rfl⟩ := Prod.mk.inj (Except.ok.inj done)
    have all : (rows.filter fun row => !(([] : List Row).map Row.id).contains row.id) = rows :=
      List.filter_eq_self.2 fun _ _ => rfl
    rw [all]
    exact ⟨rfl, has⟩
  | cons row chosen ih =>
    obtain ⟨fresh, apart⟩ := List.nodup_cons.1 apart
    obtain ⟨own, among⟩ := List.forall_mem_cons.1 among
    rw [removeAll, has.found] at done
    dsimp only at done
    have here : Table.row? { t with rows } row.id = some row := find?_of_distinct distinct own
    rw [here] at done
    have gone := has.replace (rows.filter fun other => other.id != row.id)
    obtain ⟨⟨last, more⟩, rest, done⟩ := bind_eq_ok (gone.settled done)
    obtain ⟨rfl, rfl⟩ := Prod.mk.inj (Except.ok.inj done)
    have left : ∀ other ∈ chosen, other ∈ rows.filter fun other => other.id != row.id := by
      intro other mem
      refine List.mem_filter.2 ⟨among other mem, bne_iff_ne.2 fun same => fresh ?_⟩
      exact List.mem_map.2 ⟨other, mem, same⟩
    obtain ⟨rfl, has⟩ := ih gone (nodup_filter distinct _) left apart rest
    refine ⟨rfl, ?_⟩
    rw [List.filter_filter] at has
    refine (congrArg (fun rows => before.HasRows name t rows last) ?_).mp has
    refine List.filter_congr fun other _ => ?_
    rw [List.map_cons, List.contains_cons, Bool.not_or, Bool.and_comm, bne]

end Removing

section Revising

/-- Where no two rows have one id, the rows of another id than a row's are the others. -/
theorem filter_ne_perm {row : Row} {others : List Row} (distinct : (rows.map Row.id).Nodup)
    (parts : rows.Perm (row :: others)) : (rows.filter fun other => other.id != row.id).Perm others := by
  obtain ⟨fresh, -⟩ := List.nodup_cons.1 ((parts.map Row.id).nodup_iff.1 distinct)
  have all : (others.filter fun other => other.id != row.id) = others :=
    List.filter_eq_self.2 fun other mem => bne_iff_ne.2 fun same =>
      fresh (same ▸ List.mem_map_of_mem mem)
  have kept := parts.filter fun other => other.id != row.id
  rwa [List.filter_cons, bne_self_eq_false, if_neg Bool.false_ne_true, all] at kept

/-- Each row that is changed has a new one in its place, of the cells that it is to have, and the
others stay; the ids of all are different. -/
theorem of_reviseAll {assignments : List (Option Nat × Expr)} {kept chosen revised : List Row}
    (has : before.HasRows name t rows db) (distinct : (rows.map Row.id).Nodup)
    (parts : rows.Perm (kept ++ chosen))
    (done : reviseAll env enforcing name assignments db chosen = .ok (after, revised)) :
    ∃ left, before.HasRows name t left after ∧ (left.map Row.id).Nodup ∧
      left.Perm (kept ++ revised) ∧
      List.Forall₂ (fun old new => revisedCells t env assignments old = .ok (new.id, new.cells))
        chosen revised := by
  induction chosen generalizing db rows kept revised with
  | nil =>
    obtain ⟨rfl, rfl⟩ := Prod.mk.inj (Except.ok.inj done)
    exact ⟨rows, has, distinct, parts, .nil⟩
  | cons row chosen ih =>
    rw [reviseAll, has.found] at done
    dsimp only at done
    obtain ⟨⟨id, cells⟩, given, done⟩ := bind_eq_ok done
    obtain ⟨_, keeps, done⟩ := bind_eq_ok done
    have others := filter_ne_perm distinct (parts.trans List.perm_middle)
    have changed := has.replace (Table.insertRow ⟨id, cells⟩ (rows.filter fun other => other.id != row.id))
    obtain ⟨⟨last, more⟩, rest, done⟩ := bind_eq_ok (changed.settled done)
    obtain ⟨rfl, rfl⟩ := Prod.mk.inj (Except.ok.inj done)
    have fresh := fresh_of_check keeps
    have parts : (Table.insertRow ⟨id, cells⟩ (rows.filter fun other => other.id != row.id)).Perm
        (kept ++ [⟨id, cells⟩] ++ chosen) := by
      refine (insertRow_perm _ _).trans ((others.cons _).trans ?_)
      rw [List.append_assoc]
      exact List.perm_middle.symm
    obtain ⟨left, has, distinct, parts, each⟩ :=
      ih changed (nodup_insertRow (nodup_filter distinct _) fresh) parts rest
    rw [List.append_assoc] at parts
    exact ⟨left, has, distinct, parts, .cons given each⟩

end Revising

section Statements

variable {e r : Expr} {keep : Row → Bool} {written : String}

/-- A removal of the rows that a condition holds of is planned with the condition resolved. -/
theorem of_planDelete (found : before.find? written = some (.table t))
    (resolved : t.names.resolve e = .ok r) {removal : Removal}
    (planned : before.planDelete enforcing written (some e) [] = .ok removal) :
    removal = ⟨t.name, some r, []⟩ := by
  have table : before.changeable written = .ok t := by rw [Database.changeable, found]
  have condition : t.names.resolveOption (some e) = .ok (some r) := by
    rw [Names.resolveOption, resolved]
    rfl
  obtain ⟨u, same, planned⟩ := bind_eq_ok planned
  obtain rfl := Except.ok.inj (table.symm.trans same)
  obtain ⟨test, same, planned⟩ := bind_eq_ok planned
  obtain rfl := Except.ok.inj (condition.symm.trans same)
  obtain ⟨returning, same, planned⟩ := bind_eq_ok planned
  obtain rfl : [] = returning := Except.ok.inj same
  -- the references are checked or they are not; nothing is changed by that
  cases enforcing with
  | false => exact (Except.ok.inj planned).symm
  | true =>
    obtain ⟨_, -, planned⟩ := bind_eq_ok planned
    obtain ⟨_, -, planned⟩ := bind_eq_ok planned
    exact (Except.ok.inj planned).symm

/-- A removal takes away the rows that its condition holds of, and leaves the others in their order. -/
theorem of_removal_run {outcome : Outcome} (found : before.table? t.name = some t)
    (unfollowed : before.Unfollowed t.name) (distinct : (t.rows.map Row.id).Nodup)
    (each : ∀ row ∈ t.rows, r.holds (env.ofRow row.slots) = .ok (keep row))
    (ran : Removal.run ⟨t.name, some r, []⟩ before enforcing env = .ok outcome) :
    outcome.changed = (t.rows.filter keep).length ∧
      before.HasRows t.name t (t.rows.filter fun row => !keep row) outcome.database := by
  rw [Removal.run, found] at ran
  dsimp only at ran
  obtain ⟨chosen, met, ran⟩ := bind_eq_ok ran
  obtain rfl := Except.ok.inj ((meeting_eq each).symm.trans met)
  obtain ⟨⟨later, removed⟩, removal, ran⟩ := bind_eq_ok ran
  obtain ⟨rfl, has⟩ := of_removeAll (.refl found unfollowed) distinct
    (fun row mem => (List.mem_filter.1 mem).1) (nodup_filter distinct keep) removal
  have left : (t.rows.filter fun row => !((t.rows.filter keep).map Row.id).contains row.id) =
      t.rows.filter fun row => !keep row := by
    refine List.filter_congr fun row mem => congrArg (! ·) ?_
    rw [Bool.eq_iff_iff, List.contains_iff_mem]
    constructor
    · intro among
      obtain ⟨other, chosen, same⟩ := List.mem_map.1 among
      obtain ⟨among, kept⟩ := List.mem_filter.1 chosen
      rwa [← List.inj_on_of_nodup_map distinct among mem same]
    · exact fun kept => List.mem_map_of_mem (List.mem_filter.2 ⟨mem, kept⟩)
  rw [left] at has
  cases enforcing with
  | false =>
    obtain ⟨_, -, ran⟩ := bind_eq_ok ran
    rw [← Except.ok.inj ran]
    exact ⟨rfl, has⟩
  | true =>
    obtain ⟨_, -, ran⟩ := bind_eq_ok ran
    obtain ⟨_, -, ran⟩ := bind_eq_ok ran
    rw [← Except.ok.inj ran]
    exact ⟨rfl, has⟩

/-- A change of the rows that a condition holds of is planned with its columns and its condition
resolved. -/
theorem of_planUpdate (found : before.find? written = some (.table t))
    (resolved : t.names.resolve e = .ok r) {given : List (String × Expr)} {revision : Revision}
    (planned : before.planUpdate enforcing written given (some e) [] = .ok revision) :
    ∃ assignments, Database.resolveAssignments t given = .ok assignments ∧
      revision = ⟨t.name, assignments, some r, []⟩ := by
  have table : before.changeable written = .ok t := by rw [Database.changeable, found]
  have condition : t.names.resolveOption (some e) = .ok (some r) := by
    rw [Names.resolveOption, resolved]
    rfl
  obtain ⟨u, same, planned⟩ := bind_eq_ok planned
  obtain rfl := Except.ok.inj (table.symm.trans same)
  obtain ⟨assignments, known, planned⟩ := bind_eq_ok planned
  obtain ⟨test, same, planned⟩ := bind_eq_ok planned
  obtain rfl := Except.ok.inj (condition.symm.trans same)
  obtain ⟨returning, same, planned⟩ := bind_eq_ok planned
  obtain rfl : [] = returning := Except.ok.inj same
  refine ⟨assignments, known, ?_⟩
  cases enforcing with
  | false => exact (Except.ok.inj planned).symm
  | true =>
    obtain ⟨_, -, planned⟩ := bind_eq_ok planned
    obtain ⟨_, -, planned⟩ := bind_eq_ok planned
    exact (Except.ok.inj planned).symm

/-- A change puts a new row in the place of each row that its condition holds of, and leaves the others
as they are. -/
theorem of_revision_run {assignments : List (Option Nat × Expr)} {outcome : Outcome}
    (found : before.table? t.name = some t) (unfollowed : before.Unfollowed t.name)
    (distinct : (t.rows.map Row.id).Nodup)
    (each : ∀ row ∈ t.rows, r.holds (env.ofRow row.slots) = .ok (keep row))
    (ran : Revision.run ⟨t.name, assignments, some r, []⟩ before enforcing env = .ok outcome) :
    outcome.changed = (t.rows.filter keep).length ∧
      ∃ left revised, before.HasRows t.name t left outcome.database ∧
        left.Perm ((t.rows.filter fun row => !keep row) ++ revised) ∧
        List.Forall₂ (fun old new => revisedCells t env assignments old = .ok (new.id, new.cells))
          (t.rows.filter keep) revised := by
  rw [Revision.run, found] at ran
  dsimp only at ran
  obtain ⟨chosen, met, ran⟩ := bind_eq_ok ran
  obtain rfl := Except.ok.inj ((meeting_eq each).symm.trans met)
  obtain ⟨⟨later, revised⟩, revision, ran⟩ := bind_eq_ok ran
  have parts : t.rows.Perm ((t.rows.filter fun row => !keep row) ++ t.rows.filter keep) :=
    ((List.filter_append_perm keep t.rows).symm).trans List.perm_append_comm
  obtain ⟨left, has, -, parts, changed⟩ := of_reviseAll (.refl found unfollowed) distinct parts revision
  cases enforcing with
  | false =>
    obtain ⟨_, -, ran⟩ := bind_eq_ok ran
    rw [← Except.ok.inj ran]
    exact ⟨rfl, left, revised, has, parts, changed⟩
  | true =>
    obtain ⟨_, -, ran⟩ := bind_eq_ok ran
    obtain ⟨_, -, ran⟩ := bind_eq_ok ran
    rw [← Except.ok.inj ran]
    exact ⟨rfl, left, revised, has, parts, changed⟩

end Statements

end Registrar.Sql
