import Registrar.Proofs.Outcome
import Registrar.Sql.Change

/-!
# Rows that follow the rows they refer to

Changing or removing a row can change or remove rows that refer to it, which in turn takes along rows
that refer to those.  Each of these changes takes a row away or puts another in its place, in a table
that refers to others; so what withstands such a change withstands all that follows it.
-/

namespace Registrar.Sql

/-- No row of a table but those of an old id has a certain id. -/
def Table.IsFree (t : Table) (old id : Int64) : Prop :=
  ∀ other ∈ t.rows, other.id ≠ old → other.id ≠ id

/-- A row that keeps the rules of its table has an id that no other row has. -/
theorem fresh_of_check {t : Table} {env : Env} {others : List Row} {row : Row}
    (keeps : t.check env others row = .ok ()) : ∀ other ∈ others, other.id ≠ row.id := by
  unfold Table.check at keeps
  split at keeps
  · cases keeps
  · obtain ⟨_, -, keeps⟩ := bind_eq_ok keeps
    split at keeps
    · cases keeps
    · next unique =>
      intro other mem same
      exact unique (List.any_eq_true.2 ⟨other, mem, beq_iff_eq.2 same⟩)

/-- A row that keeps the rules of its table in the place of an old row has a free id. -/
theorem isFree_of_check {t : Table} {env : Env} {old : Int64} {row : Row}
    (keeps : t.check env (t.rows.filter fun other => other.id != old) row = .ok ()) :
    t.IsFree old row.id := by
  intro other mem ne
  exact fresh_of_check keeps other (List.mem_filter.2 ⟨mem, bne_iff_ne.2 ne⟩)

/-- Rows that refer may change along with the rows that they refer to. -/
def ForeignKey.Acts (fk : ForeignKey) : Prop :=
  fk.reference.onDelete ≠ .refuse ∨ fk.reference.onUpdate ≠ .refuse

/-- A property of the tables of a store that withstands changes of single rows.  The changes are made
in tables of certain names, to rows that fit these tables; and what acts on changes in these tables is
such a table again. -/
structure Withstands (named : String → Prop) (fits : String → Row → Prop) (P : Database → Prop) :
    Prop where
  /-- Only tables that may change follow those that may. -/
  referring : ∀ {db name}, P db → named name →
    ∀ entry ∈ db.referencesTo name, entry.2.Acts → named entry.1.name
  /-- The rows of a table fit it. -/
  rows : ∀ {db name t}, P db → named name → db.table? name = some t → ∀ row ∈ t.rows, fits name row
  /-- A row may be taken away. -/
  dropped : ∀ {db name t}, P db → named name → db.table? name = some t →
    ∀ id, P (db.replace (t.drop id))
  /-- Another row with as many cells and a free id may be put in the place of one that fits. -/
  exchanged : ∀ {db name t row}, P db → named name → db.table? name = some t → fits name row →
    ∀ id cells, cells.length = row.cells.length → t.IsFree row.id id →
      P (db.replace (t.exchange row.id ⟨id, t.withId id (t.storedCells cells)⟩))

/-- As many values are collected as there are things to collect them from. -/
theorem length_of_mapM {ε α β : Type} {f : α → Except ε β} {as : List α} {bs : List β}
    (done : as.mapM f = .ok bs) : bs.length = as.length := by
  induction as generalizing bs with
  | nil =>
    rw [← Except.ok.inj done]
    rfl
  | cons a as ih =>
    rw [List.mapM_cons] at done
    obtain ⟨b, -, done⟩ := bind_eq_ok done
    obtain ⟨others, collected, done⟩ := bind_eq_ok done
    rw [← Except.ok.inj done, List.length_cons, List.length_cons, ih collected]

/-- What a list is made into has at each place what is made of that place. -/
theorem getElem?_of_mapM {ε α β : Type} {f : α → Except ε β} {as : List α} {bs : List β}
    (done : as.mapM f = .ok bs) {i : Nat} {a : α} (here : as[i]? = some a) :
    ∃ b, f a = .ok b ∧ bs[i]? = some b := by
  induction as generalizing bs i with
  | nil => cases here
  | cons first as ih =>
    rw [List.mapM_cons] at done
    obtain ⟨b, made, done⟩ := bind_eq_ok done
    obtain ⟨others, collected, done⟩ := bind_eq_ok done
    obtain rfl := Except.ok.inj done
    cases i with
    | zero =>
      obtain rfl := Option.some.inj here
      exact ⟨b, made, rfl⟩
    | succ i => exact ih collected here

/-- A row that follows another has as many cells as before. -/
theorem length_followingCells {env : Env} {child : Table} {action : ReferenceAction}
    {fk : ForeignKey} {new cells followed : List Cell}
    (done : followingCells env child action fk new cells = .ok followed) :
    followed.length = cells.length := by
  rw [length_of_mapM done, List.length_zipIdx]

/-- The references to a table are those of tables of the store. -/
theorem of_mem_referencesTo {db : Database} {name : String} {entry : Table × ForeignKey}
    (mem : entry ∈ db.referencesTo name) : entry.1 ∈ db.tables ∧ entry.2 ∈ entry.1.foreignKeys := by
  obtain ⟨t, among, mem⟩ := List.mem_flatMap.1 mem
  obtain ⟨fk, chosen, rfl⟩ := List.mem_map.1 mem
  exact ⟨among, (List.mem_filter.1 chosen).1⟩

/-- What follows the change of a row, on a number of levels, keeps a property. -/
structure FollowsSafely (named : String → Prop) (fits : String → Row → Prop) (P : Database → Prop)
    (env : Env) (fuel : Nat) : Prop where
  follow : ∀ {parent old new references db after}, P db →
    (∀ entry ∈ references, entry.2.Acts → named entry.1.name) →
    Database.follow env fuel parent old new references db = .ok after → P after
  removeRows : ∀ {name rows db after}, P db → named name →
    Database.removeRows db env fuel name rows = .ok after → P after
  followRows : ∀ {name fk action new rows db after}, P db → named name →
    (∀ row ∈ rows, fits name row) →
    Database.followRows db env fuel name fk action new rows = .ok after → P after

namespace Withstands

variable {named : String → Prop} {fits : String → Row → Prop} {P : Database → Prop} {env : Env}

/-- Following on one level more keeps what following on the levels below does. -/
theorem follow_succ (withstands : Withstands named fits P) {fuel : Nat}
    (below : FollowsSafely named fits P env fuel) {parent : Table} {old : Row} {new : Option Row}
    {references : List (Table × ForeignKey)} {db after : Database} (holds : P db)
    (may : ∀ entry ∈ references, entry.2.Acts → named entry.1.name)
    (done : Database.follow env (fuel + 1) parent old new references db = .ok after) : P after := by
  cases references with
  | nil =>
    rw [Database.follow] at done
    rw [← Except.ok.inj done]
    exact holds
  | cons reference references =>
    obtain ⟨child, fk⟩ := reference
    have others : ∀ entry ∈ references, entry.2.Acts → named entry.1.name :=
      fun entry mem => may entry (List.mem_cons_of_mem _ mem)
    rw [Database.follow] at done
    split at done
    · exact below.follow holds others done
    · next columns referred =>
      dsimp only at done
      have ifActing (acting : (if new.isSome then fk.reference.onUpdate else fk.reference.onDelete) ≠
          .refuse) : named child.name := by
        refine may _ List.mem_cons_self ?_
        split at acting
        · exact .inr acting
        · exact .inl acting
      generalize (if new.isSome then fk.reference.onUpdate else fk.reference.onDelete) = action
        at done ifActing
      generalize passes : (action == ReferenceAction.refuse || _) = passedOver at done
      split at done
      · exact below.follow holds others done
      · next acting =>
        have own : named child.name := ifActing fun refuse => acting (by rw [← passes, refuse]; rfl)
        split at done
        · obtain ⟨middle, changed, done⟩ := bind_eq_ok done
          exact below.follow (below.removeRows holds own changed) others done
        · obtain ⟨middle, changed, done⟩ := bind_eq_ok done
          refine below.follow (below.followRows holds own ?_ changed) others done
          intro row mem
          split at mem
          · next t found => exact withstands.rows holds own found row (List.mem_filter.1 mem).1
          · cases mem

/-- Removing on one level more keeps what following on the levels below does. -/
theorem removeRows_succ (withstands : Withstands named fits P) {fuel : Nat}
    (below : FollowsSafely named fits P env fuel) {name : String} {rows : List Row}
    {db after : Database} (holds : P db) (own : named name)
    (done : Database.removeRows db env (fuel + 1) name rows = .ok after) : P after := by
  cases rows with
  | nil =>
    rw [Database.removeRows] at done
    rw [← Except.ok.inj done]
    exact holds
  | cons row rows =>
    rw [Database.removeRows] at done
    split at done
    · rw [← Except.ok.inj done]
      exact holds
    · next t found =>
      obtain ⟨middle, followed, done⟩ := bind_eq_ok done
      have gone := withstands.dropped holds own found row.id
      exact below.removeRows (below.follow gone (withstands.referring gone own) followed) own done

/-- Changing rows on one level more keeps what following on the levels below does. -/
theorem followRows_succ (withstands : Withstands named fits P) {fuel : Nat}
    (below : FollowsSafely named fits P env fuel) {name : String} {fk : ForeignKey}
    {action : ReferenceAction} {new : List Cell} {rows : List Row} {db after : Database}
    (holds : P db) (own : named name) (fit : ∀ row ∈ rows, fits name row)
    (done : Database.followRows db env (fuel + 1) name fk action new rows = .ok after) : P after := by
  cases rows with
  | nil =>
    rw [Database.followRows] at done
    rw [← Except.ok.inj done]
    exact holds
  | cons row rows =>
    rw [Database.followRows] at done
    split at done
    · rw [← Except.ok.inj done]
      exact holds
    · next t found =>
      obtain ⟨cells, collected, done⟩ := bind_eq_ok done
      obtain ⟨_, -, done⟩ := bind_eq_ok done
      obtain ⟨middle, followed, done⟩ := bind_eq_ok done
      have width := length_followingCells collected
      have changed := withstands.exchanged holds own found (fit row List.mem_cons_self) row.id cells
        width fun _ _ ne => ne
      have later := below.follow changed (withstands.referring changed own) followed
      exact below.followRows later own (fun other mem => fit other (List.mem_cons_of_mem row mem)) done

/-- What withstands changes of single rows withstands all that follows them. -/
theorem followsSafely (withstands : Withstands named fits P) (env : Env) (fuel : Nat) :
    FollowsSafely named fits P env fuel := by
  induction fuel with
  | zero =>
    refine ⟨fun _ _ done => ?_, fun _ _ done => ?_, fun _ _ _ done => ?_⟩
    · cases done
    · cases done
    · cases done
  | succ fuel below =>
    exact ⟨withstands.follow_succ below, withstands.removeRows_succ below,
      withstands.followRows_succ below⟩

/-- The new cells of a row that is changed are shown with its id. -/
theorem of_revisedCells {t : Table} {assignments : List (Option Nat × Expr)} {row : Row}
    {id : Int64} {cells : List Cell} (done : revisedCells t env assignments row = .ok (id, cells)) :
    ∃ given, given.length = row.cells.length ∧ cells = t.withId id (t.storedCells given) := by
  obtain ⟨assigned, -, done⟩ := bind_eq_ok done
  have shown {new : Int64} {given : List Cell} (width : given.length = row.cells.length)
      (same : Except.ok (new, t.withId new (t.storedCells given)) =
        (.ok (id, cells) : Except Problem (Int64 × List Cell))) :
      ∃ given, given.length = row.cells.length ∧ cells = t.withId id (t.storedCells given) := by
    obtain ⟨rfl, rfl⟩ := Prod.mk.inj (Except.ok.inj same)
    exact ⟨given, width, rfl⟩
  have width (assign : Cell × Nat → Cell) :
      (row.cells.zipIdx.map assign).length = row.cells.length := by
    rw [List.length_map, List.length_zipIdx]
  -- an id is assigned or it is not; the row is shown with the one or the other
  dsimp only at done
  split at done
  · obtain ⟨new, -, done⟩ := bind_eq_ok done
    exact shown (width _) done
  · exact shown (width _) done

/-- What withstands changes of single rows withstands changes of several. -/
theorem reviseAll (withstands : Withstands named fits P) {enforcing : Bool} {name : String}
    {assignments : List (Option Nat × Expr)} {rows revised : List Row} {db after : Database}
    (holds : P db) (own : named name) (fit : ∀ row ∈ rows, fits name row)
    (done : Sql.reviseAll env enforcing name assignments db rows = .ok (after, revised)) :
    P after := by
  induction rows generalizing db revised with
  | nil =>
    rw [← (Prod.mk.inj (Except.ok.inj done)).1]
    exact holds
  | cons row rows ih =>
    rw [Sql.reviseAll] at done
    split at done
    · rw [← (Prod.mk.inj (Except.ok.inj done)).1]
      exact holds
    · next t found =>
      obtain ⟨⟨id, cells⟩, collected, done⟩ := bind_eq_ok done
      obtain ⟨given, width, rfl⟩ := of_revisedCells collected
      obtain ⟨_, keeps, done⟩ := bind_eq_ok done
      have changed := withstands.exchanged holds own found (fit row List.mem_cons_self) id given width
        (isFree_of_check keeps)
      have others : ∀ other ∈ rows, fits name other :=
        fun other mem => fit other (List.mem_cons_of_mem row mem)
      have goesOn {middle : Database} (kept : P middle)
          (done : (do
            let result ← Sql.reviseAll env enforcing name assignments middle rows
            .ok (result.1, ⟨id, t.withId id (t.storedCells given)⟩ :: result.2)) =
              Except.ok (after, revised)) : P after := by
        obtain ⟨⟨later, more⟩, rest, done⟩ := bind_eq_ok done
        obtain rfl : later = after := (Prod.mk.inj (Except.ok.inj done)).1
        exact ih kept others rest
      -- the rows that refer to the row follow, or references do not matter
      cases enforcing with
      | false => exact goesOn changed done
      | true =>
        obtain ⟨middle, followed, done⟩ := bind_eq_ok done
        have safely := withstands.followsSafely env (followFuel db)
        exact goesOn (safely.follow changed (withstands.referring changed own) followed) done

/-- What withstands changes of single rows withstands the removal of several. -/
theorem removeAll (withstands : Withstands named fits P) {enforcing : Bool} {name : String}
    {rows removed : List Row} {db after : Database} (holds : P db) (own : named name)
    (done : Sql.removeAll env enforcing name db rows = .ok (after, removed)) : P after := by
  induction rows generalizing db removed with
  | nil =>
    rw [← (Prod.mk.inj (Except.ok.inj done)).1]
    exact holds
  | cons row rows ih =>
    rw [Sql.removeAll] at done
    split at done
    · rw [← (Prod.mk.inj (Except.ok.inj done)).1]
      exact holds
    · next t found =>
      split at done
      · exact ih holds done
      · next present here =>
        have gone := withstands.dropped holds own found present.id
        have goesOn {middle : Database} (kept : P middle)
            (done : (do
              let result ← Sql.removeAll env enforcing name middle rows
              .ok (result.1, present :: result.2)) = Except.ok (after, removed)) : P after := by
          obtain ⟨⟨later, more⟩, rest, done⟩ := bind_eq_ok done
          obtain rfl : later = after := (Prod.mk.inj (Except.ok.inj done)).1
          exact ih kept rest
        cases enforcing with
        | false => exact goesOn gone done
        | true =>
          obtain ⟨middle, followed, done⟩ := bind_eq_ok done
          have safely := withstands.followsSafely env (followFuel db)
          exact goesOn (safely.follow gone (withstands.referring gone own) followed) done

end Withstands

end Registrar.Sql
