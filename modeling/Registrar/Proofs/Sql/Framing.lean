import Registrar.Proofs.Sql.Shapes

/-!
# What stays

Removing rows of a table changes no table but those that may follow it: that refer to it, or to one that
may follow it, by references which act on changes.  And the names of what is in a store stay different.
-/

namespace Registrar.Sql

open Registrar.Text

/-- The names under which rows may change when rows of a table change. -/
inductive Database.MayFollow (db : Database) (target : String) : String → Prop
  | itself {name : String} (same : sameName name target = true) : db.MayFollow target name
  | refers {t : Table} {fk : ForeignKey} {name : String} (among : t ∈ db.tables)
    (own : fk ∈ t.foreignKeys) (acts : fk.Acts) (leads : db.MayFollow target fk.reference.table)
    (named : sameName name t.name = true) : db.MayFollow target name

section Framing

variable {before db after : Database} {target name : String} {keep : String → Bool} {env : Env}
  {enforcing : Bool}

/-- The same names may follow a table. -/
theorem Database.MayFollow.congr (follows : db.MayFollow target name) {other : String}
    (same : sameName other name = true) : db.MayFollow target other := by
  cases follows with
  | itself alike => exact .itself (by rw [sameName_congr same, alike])
  | refers among own acts leads named =>
    exact .refers among own acts leads (by rw [sameName_congr same, named])

/-- What may follow a table has its name or that of a table that refers. -/
theorem Database.MayFollow.cases_name (follows : db.MayFollow target name) :
    sameName name target = true ∨
      ∃ t ∈ db.tables, t.foreignKeys ≠ [] ∧ sameName name t.name = true := by
  cases follows with
  | itself same => exact .inl same
  | refers among own acts leads named => exact .inr ⟨_, among, List.ne_nil_of_mem own, named⟩

/-- A test of names that none passes which may follow a table. -/
structure Database.Spares (db : Database) (target : String) (keep : String → Bool) : Prop where
  congr : ∀ {a b}, sameName a b = true → keep a = keep b
  apart : ∀ name, db.MayFollow target name → keep name = false

/-- What passes a test is what it was before, and no more tables may follow. -/
structure Database.Frames (before : Database) (target : String) (keep : String → Bool)
    (db : Database) : Prop where
  kept : db.items.filter (fun item => keep item.name) =
    before.items.filter fun item => keep item.name
  closed : ∀ t ∈ db.tables, ∀ fk ∈ t.foreignKeys, fk.Acts →
    before.MayFollow target fk.reference.table → before.MayFollow target t.name

/-- A table refers to a table of the name that its reference has. -/
theorem sameName_of_mem_referencesTo {entry : Table × ForeignKey} (mem : entry ∈ db.referencesTo name) :
    sameName entry.2.reference.table name = true := by
  obtain ⟨t, among, mem⟩ := List.mem_flatMap.1 mem
  obtain ⟨fk, chosen, rfl⟩ := List.mem_map.1 mem
  exact (List.mem_filter.1 chosen).2

namespace Database.Frames

/-- Nothing has changed at first. -/
theorem refl (before : Database) (target : String) (keep : String → Bool) :
    before.Frames target keep before :=
  ⟨rfl, fun _ among _ own acts leads =>
    .refers among own acts leads (beq_self_eq_true _)⟩

/-- A table that may follow may get other rows. -/
theorem replace (frames : before.Frames target keep db) (spares : before.Spares target keep)
    (named : before.MayFollow target name) {t changed : Table} (found : db.table? name = some t)
    (shape : changed.shape = t.shape) : before.Frames target keep (db.replace changed) := by
  have names : changed.name = t.name := (Table.of_shape shape).1
  have own : before.MayFollow target changed.name := by
    refine named.congr ?_
    rw [names]
    exact Database.name_of_table? found
  refine ⟨?_, fun u mem fk mine acts leads => ?_⟩
  · rw [Database.filter_replace spares.congr db (spares.apart _ own), frames.kept]
  · rcases Database.mem_tables_replace mem with rfl | mem
    · exact own
    · exact frames.closed u mem fk mine acts leads

end Database.Frames

/-- What may not follow a table stays where rows change of those that may. -/
theorem withstands_frames (spares : before.Spares target keep) :
    Withstands (before.MayFollow target) (fun _ _ => True) (before.Frames target keep) where
  referring frames named entry mem acts := by
    obtain ⟨among, own⟩ := of_mem_referencesTo mem
    exact frames.closed _ among _ own acts (named.congr (sameName_of_mem_referencesTo mem))
  rows _ _ _ _ _ := trivial
  dropped frames named found _ := frames.replace spares named found rfl
  exchanged frames named found _ _ _ _ _ := frames.replace spares named found rfl

/-- What may not follow a table stays where rows of the table are removed. -/
theorem kept_removeAll (spares : db.Spares target keep) {rows removed : List Row}
    (done : removeAll env enforcing target db rows = .ok (after, removed)) :
    after.items.filter (fun item => keep item.name) =
      db.items.filter fun item => keep item.name :=
  ((withstands_frames spares).removeAll (.refl db target keep) (.itself (beq_self_eq_true _)) done).kept

end Framing

/-! ### Different names -/

/-- The names of what is in a store are different. -/
def Database.Distinct (db : Database) : Prop :=
  db.items.Pairwise fun a b => sameName a.name b.name = false

section Names

variable {db after : Database} {name : String} {s : Store}

/-- Names stay different where tables get other rows, and where something is taken away. -/
theorem persists_distinct : Persists Database.Distinct where
  replace {db name t changed} distinct found shape := by
    have put (item : Item) : sameName (if sameName item.name changed.name then Item.table changed
        else item).name item.name = true := by
      split
      · next same => rwa [sameName_comm]
      · exact beq_self_eq_true _
    refine List.pairwise_map.2 (distinct.imp fun {a b} apart => ?_)
    rw [sameName_congr (put a), sameName_congr_right (put b), apart]
  remove name distinct := distinct.filter _

/-- Names stay different where something of a new name is added. -/
theorem Database.Distinct.add (distinct : db.Distinct) {item : Item}
    (free : db.find? item.name = none) : (db.add item).Distinct := by
  refine List.pairwise_append.2 ⟨distinct, List.pairwise_singleton _ _, fun other mem new same => ?_⟩
  rw [List.mem_singleton.1 same]
  simpa using List.find?_eq_none.1 free other mem

/-- A name that may be declared is not used. -/
theorem free_of_checkName {written : WrittenName} {ifMissing : Bool}
    (free : db.checkName written ifMissing = .ok true) : db.find? written.name = none := by
  simpa using (Database.checkName_cases free).2

/-- Names stay different where a table or a view is declared. -/
theorem Database.Distinct.declares (distinct : s.database.Distinct) {source : String} {db : Database}
    (declares : s.Declares source db) : db.Distinct := by
  cases declares with
  | removal name => exact distinct.filter _
  | view creates =>
    obtain ⟨free, checked, done⟩ := bind_eq_ok creates
    cases free with
    | false =>
      rw [← Except.ok.inj done]
      exact distinct
    | true =>
      rw [← Except.ok.inj done]
      exact distinct.add (free_of_checkName checked)
  | table creates =>
    obtain ⟨free, checked, done⟩ := bind_eq_ok creates
    cases free with
    | false =>
      rw [← Except.ok.inj done]
      exact distinct
    | true =>
      obtain ⟨t, declared, done⟩ := bind_eq_ok done
      have named := (declared_of_declareTable declared).named
      have free : s.database.find? t.name = none := by
        rw [named]
        exact free_of_checkName checked
      rw [← Except.ok.inj done, Database.addTable]
      split
      · next counts =>
        have counter : s.database.find? (Item.table sequenceTable).name = none :=
          Option.isNone_iff_eq_none.1 (Bool.and_eq_true_iff.1 counts).2
        have other : sameName (Item.table sequenceTable).name t.name = false := by
          rw [sameName_comm, named]
          exact of_checkName checked
        refine (distinct.add counter).add ?_
        show (s.database.add (.table sequenceTable)).find? t.name = none
        rw [Database.find?_add, free, other]
        rfl
      · exact distinct.add free

/-- The names of what is in a store are different, in every store that there can be. -/
theorem Store.Reached.distinct (reached : s.Reached) : s.database.Distinct :=
  (persists_distinct.reached .nil (fun _ distinct declares => distinct.declares declares) reached).1

end Names

end Registrar.Sql
