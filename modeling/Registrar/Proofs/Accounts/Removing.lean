import Registrar.Proofs.Accounts.Remembering

/-!
# Removal of users

A user is removed by the id.  Rows of other tables that refer to the user may follow, but the other
users stay as they are, and the store still remembers the greatest id that it has given.
-/

namespace Registrar

open Registrar.Text Registrar.Sql Registrar.Sql.Token Registrar.Sql.Database Call

section Statement

/-- The text of the removal of a user. -/
def removeText : String :=
  "DELETE FROM users WHERE users_id = ?"

/-- The removal of a user as it is read. -/
def removeStatement : Sql.Statement :=
  .delete "users" (some (.binary .eq (.column none "users_id" false 24) (.parameter 1))) []

/-- The removal of a user is read from its text. -/
theorem parse_removeText :
    parse removeText = .ok ⟨some removeStatement, 1, removeText, []⟩ := by
  have tokens : numbered removeText = [wordAt "DELETE" 0, wordAt "FROM" 7, wordAt "users" 12,
      wordAt "WHERE" 18, wordAt "users_id" 24, symbolAt "=" 33, markAt 35 1] := rfl
  exact parse_whole tokens rfl rfl

/-- The user of an id is removed by this statement. -/
theorem deleteStatement_user (id : Int64) :
    deleteStatement "users" (some (.scalar (.integer id))) = .ok ⟨removeText, [.integer id]⟩ := by
  have meant : (Condition.scalar (.integer id)).clause "users" =
      .ok ⟨"users" ++ "_id = ?", [.integer id]⟩ := rfl
  have worded : isBlankText ("users" ++ "_id = ?") = false := rfl
  have guarded : (Clause.mk ("users" ++ "_id = ?") [.integer id]).isEmpty = false := worded
  have text : "DELETE FROM " ++ "users" ++ " WHERE " ++ ("users" ++ "_id = ?") = removeText := rfl
  simp only [deleteStatement, identifier_users, meant, guarded, bind, Except.bind,
    Bool.false_eq_true, if_false]
  rw [text]

/-- The removal of the user of an id. -/
def userRemoval : Removal :=
  ⟨"users", some (.binary .eq (.slot 0 .integer .binary) (.parameter 1)), []⟩

/-- A removal of a user that means something is this one. -/
theorem of_planDelete_user {db : Database} {rows : List Sql.Row} (has : db.HasUsers rows)
    {enforcing : Bool} {removal : Removal}
    (planned : db.planDelete enforcing "users"
      (some (.binary .eq (.column none "users_id" false 24) (.parameter 1))) [] = .ok removal) :
    removal = userRemoval := by
  have found : db.changeable "users" = .ok (usersTable rows) := by
    rw [Database.changeable, has.find?]
  have condition : (usersTable rows).names.resolveOption
      (some (.binary .eq (.column none "users_id" false 24) (.parameter 1))) =
        .ok (some (.binary .eq (.slot 0 .integer .binary) (.parameter 1))) := rfl
  obtain ⟨t, same, planned⟩ := bind_eq_ok planned
  obtain rfl := Except.ok.inj (found.symm.trans same)
  obtain ⟨test, same, planned⟩ := bind_eq_ok planned
  obtain rfl := Except.ok.inj (condition.symm.trans same)
  obtain ⟨returning, same, planned⟩ := bind_eq_ok planned
  obtain rfl : [] = returning := Except.ok.inj same
  -- the references are checked or they are not; nothing is changed by that
  cases enforcing with
  | false => exact (Except.ok.inj planned).symm
  | true =>
    obtain ⟨_, -, planned⟩ := bind_eq_ok planned
    obtain ⟨_, -, planned⟩ := bind_eq_ok planned
    exact (Except.ok.inj planned).symm

end Statement

section Following

variable {rows : List Sql.Row} {sequence : Option Sql.Table} {db : Database}

/-- A store has certain users and a certain table of greatest ids, which refers to nothing. -/
structure KeepsUsers (rows : List Sql.Row) (sequence : Option Sql.Table) (db : Database) : Prop where
  has : db.HasUsers rows
  sequence : db.table? sequenceName = sequence
  unreferring : ∀ t ∈ db.tables, sameName t.name sequenceName = true → t.foreignKeys = []

/-- Where what is in a store is sound, the table of the greatest ids refers to nothing. -/
theorem unreferring_of_sound (sound : db.Sound) :
    ∀ t ∈ db.tables, sameName t.name sequenceName = true → t.foreignKeys = [] := by
  intro t mem own
  obtain ⟨item, among, shown⟩ := List.mem_filterMap.1 mem
  have good := sound item among
  cases item with
  | view v => cases shown
  | table u =>
    obtain rfl := Option.some.inj shown
    have shape : u.shape = sequenceTable := good.2 own
    show u.shape.foreignKeys = []
    rw [shape]
    rfl

namespace KeepsUsers

/-- A table of another name may be put in the place of one. -/
theorem replace_other (keeps : KeepsUsers rows sequence db) {t : Sql.Table}
    (other : isOtherName t.name = true) : KeepsUsers rows sequence (db.replace t) := by
  rw [isOtherName, Bool.and_eq_true, Bool.not_eq_true', Bool.not_eq_true'] at other
  refine ⟨keeps.has.replace_other other.1, ?_, fun u mem own => ?_⟩
  · rw [table?_replace_other other.2, keeps.sequence]
  · rcases mem_tables_replace mem with rfl | mem
    · rw [other.2] at own
      cases own
    · exact keeps.unreferring u mem own

/-- Other rows may be put in the place of the users. -/
theorem replace (keeps : KeepsUsers rows sequence db) (new : List Sql.Row) :
    KeepsUsers new sequence (db.replace (usersTable new)) := by
  have other : sameName (usersTable new).name sequenceName = false := sameName_users_sequence
  refine ⟨keeps.has.replace, ?_, fun u mem own => ?_⟩
  · rw [table?_replace_other other, keeps.sequence]
  · rcases mem_tables_replace mem with rfl | mem
    · rfl
    · exact keeps.unreferring u mem own

/-- A table that refers to others is neither that of the users nor that of the greatest ids. -/
theorem isOtherName_of_referring (keeps : KeepsUsers rows sequence db) {t : Sql.Table}
    (mem : t ∈ db.tables) (refers : t.foreignKeys ≠ []) : isOtherName t.name = true := by
  have notUsers : sameName t.name "users" = false := by
    obtain ⟨before, after, items, unnamed⟩ := keeps.has
    obtain ⟨item, among, shown⟩ := List.mem_filterMap.1 mem
    cases item with
    | view v => cases shown
    | table u =>
      obtain rfl := Option.some.inj shown
      rw [items, List.mem_append, List.mem_cons] at among
      rcases among with among | same | among
      · exact unnamed (.table u) (List.mem_append_left after among)
      · obtain rfl := Item.table.inj same
        exact absurd rfl refers
      · exact unnamed (.table u) (List.mem_append_right before among)
  have notCounter : sameName t.name sequenceName = false := by
    rw [Bool.eq_false_iff]
    exact fun own => refers (keeps.unreferring t mem own)
  rw [isOtherName, notUsers, notCounter]
  rfl

end KeepsUsers

/-- Whatever refers to another table is neither that of the users nor that of the greatest ids. -/
theorem KeepsUsers.isOtherName_of_mem_referencesTo (keeps : KeepsUsers rows sequence db) (name : String) :
    ∀ entry ∈ db.referencesTo name, entry.2.Acts → isOtherName entry.1.name = true := by
  intro entry mem _
  obtain ⟨among, own⟩ := of_mem_referencesTo mem
  exact keeps.isOtherName_of_referring among (List.ne_nil_of_mem own)

/-- The users stay as they are where rows of other tables change. -/
theorem withstands_users (rows : List Sql.Row) (sequence : Option Sql.Table) :
    Withstands (fun name => isOtherName name = true) (fun _ _ => True)
      (KeepsUsers rows sequence) where
  referring keeps _ := keeps.isOtherName_of_mem_referencesTo _
  rows _ _ _ _ _ := trivial
  dropped keeps other found _ :=
    keeps.replace_other ((isOtherName_congr (name_of_table? found)).trans other)
  exchanged keeps other found _ _ _ _ _ :=
    keeps.replace_other ((isOtherName_congr (name_of_table? found)).trans other)

end Following

section Running

variable {rows gone removed : List Sql.Row} {sequence : Option Sql.Table} {db after : Database}
  {env : Env} {enforcing : Bool}

/-- Whether a row is none of some rows, by its id. -/
def stays (gone : List Sql.Row) (row : Sql.Row) : Bool :=
  gone.all fun other => row.id != other.id

/-- Rows of users are taken away one after another, and the others stay as they are. -/
theorem keepsUsers_removeAll (keeps : KeepsUsers rows sequence db)
    (done : removeAll env enforcing "users" db gone = .ok (after, removed)) :
    KeepsUsers (rows.filter (stays gone)) sequence after := by
  induction gone generalizing db rows removed with
  | nil =>
    rw [← (Prod.mk.inj (Except.ok.inj done)).1]
    have all : rows.filter (stays []) = rows := List.filter_eq_self.2 fun _ _ => rfl
    rw [all]
    exact keeps
  | cons row gone ih =>
    have twice : rows.filter (stays (row :: gone)) =
        (rows.filter fun other => other.id != row.id).filter (stays gone) := by
      rw [List.filter_filter]
      refine List.filter_congr fun other _ => ?_
      rw [stays, List.all_cons, Bool.and_comm]
      rfl
    rw [removeAll, keeps.has.table?] at done
    dsimp only at done
    rw [twice]
    split at done
    · next absent =>
      have none : rows.filter (fun other => other.id != row.id) = rows := by
        refine List.filter_eq_self.2 fun other mem => ?_
        simpa using List.find?_eq_none.1 absent other mem
      rw [none]
      exact ih keeps done
    · next present here =>
      have same : present.id = row.id := by simpa using List.find?_some here
      have dropped : (usersTable rows).drop present.id =
          usersTable (rows.filter fun other => other.id != row.id) := by
        rw [same]
        rfl
      rw [dropped] at done
      have fewer := keeps.replace (rows.filter fun other => other.id != row.id)
      have goesOn {middle : Database}
          (kept : KeepsUsers (rows.filter fun other => other.id != row.id) sequence middle)
          (done : (do
            let result ← removeAll env enforcing "users" middle gone
            .ok (result.1, present :: result.2)) = Except.ok (after, removed)) :
          KeepsUsers ((rows.filter fun other => other.id != row.id).filter (stays gone)) sequence
            after := by
        obtain ⟨⟨later, more⟩, rest, done⟩ := bind_eq_ok done
        obtain rfl : later = after := (Prod.mk.inj (Except.ok.inj done)).1
        exact ih kept rest
      -- rows of other tables follow, or references do not matter
      cases enforcing with
      | false => exact goesOn fewer done
      | true =>
        obtain ⟨middle, followed, done⟩ := bind_eq_ok done
        have withstands :=
          withstands_users (rows.filter fun other => other.id != row.id) sequence
        have kept := (withstands.followsSafely env (followFuel db)).follow fewer
          (fewer.isOtherName_of_mem_referencesTo "users") followed
        exact goesOn kept done

/-- The users of an id are removed, and no others. -/
theorem of_userRemoval {accounts : List Account} {id : Int64} {outcome : Sql.Outcome}
    (keeps : KeepsUsers (accounts.map Account.row) sequence db)
    (given : env.parameters = [.integer id])
    (ran : userRemoval.run db enforcing env = .ok outcome) :
    KeepsUsers ((accounts.filter fun account => account.id != id).map Account.row) sequence
        outcome.database ∧
      outcome.answer = .none := by
  have found : db.table? userRemoval.table = some (usersTable (accounts.map Account.row)) :=
    keeps.has.table?
  have wanted : env.parameters[0]? = some (.integer id) := by rw [given]; rfl
  have meant : (usersTable (accounts.map Account.row)).meeting env userRemoval.condition =
      .ok ((accounts.filter fun account => account.id == id).map Account.row) := by
    show (accounts.map Account.row).filterM (fun row => (Expr.binary .eq (.slot 0 .integer .binary)
      (.parameter 1)).holds (env.ofRow row.slots)) = _
    exact filterM_map_eq_ok fun account _ => holds_integer rfl wanted
  simp only [Removal.run, found] at ran
  obtain ⟨chosen, same, ran⟩ := bind_eq_ok ran
  obtain rfl := Except.ok.inj (meant.symm.trans same)
  obtain ⟨⟨later, gone⟩, removal, ran⟩ := bind_eq_ok ran
  obtain ⟨stored, silent⟩ : outcome.database = later ∧ outcome.answer = .none := by
    cases enforcing with
    | false =>
      obtain ⟨_, -, ran⟩ := bind_eq_ok ran
      rw [← Except.ok.inj ran]
      exact ⟨rfl, rfl⟩
    | true =>
      obtain ⟨_, -, ran⟩ := bind_eq_ok ran
      obtain ⟨_, -, ran⟩ := bind_eq_ok ran
      rw [← Except.ok.inj ran]
      exact ⟨rfl, rfl⟩
  have others : (accounts.map Account.row).filter
      (stays ((accounts.filter fun account => account.id == id).map Account.row)) =
        (accounts.filter fun account => account.id != id).map Account.row := by
    rw [List.filter_map]
    refine congrArg (List.map Account.row) (List.filter_congr fun account mem => ?_)
    rw [Bool.eq_iff_iff, Function.comp_apply, stays, List.all_eq_true, bne_iff_ne]
    constructor
    · intro apart same
      have own : account.row ∈
          (accounts.filter fun account => account.id == id).map Account.row :=
        List.mem_map_of_mem (List.mem_filter.2 ⟨mem, by simpa using same⟩)
      have differs := apart account.row own
      rw [bne_self_eq_false] at differs
      cases differs
    · intro other row among
      obtain ⟨own, chosen, rfl⟩ := List.mem_map.1 among
      have same : own.id = id := by simpa using (List.mem_filter.1 chosen).2
      show (account.id != own.id) = true
      rw [same]
      exact bne_iff_ne.2 other
  have kept := keepsUsers_removeAll keeps removal
  rw [others] at kept
  rw [stored]
  exact ⟨kept, silent⟩

end Running

/-- Removing a user by the id fails with nothing changed, or the others are left. -/
theorem delete_cases {session : Session} {accounts : List Account} {sequence : Option Sql.Table}
    (keeps : KeepsUsers (accounts.map Account.row) sequence session.store.database)
    (outside : session.store.saved = none) (id : Int64) :
    (∃ f after, (Call.delete "users" (some (.scalar (.integer id)))).outcome session =
        (.error f, after) ∧ after.store = session.store) ∨
    ∃ n after, (Call.delete "users" (some (.scalar (.integer id)))).outcome session =
        (.ok n, after) ∧ after.store.saved = none ∧
      KeepsUsers ((accounts.filter fun account => account.id != id).map Account.row) sequence
        after.store.database := by
  have built := deleteStatement_user id
  have changes := changesRows_deleteStatement built
  have carried := changeOn_outside changes outside
  rw [Call.delete, built, outcome_bind_of_ok (outcome_lift _ _), outcome_change, carried]
  cases ran : runOn session.store ⟨removeText, [.integer id]⟩ with
  | error fault => exact .inl ⟨_, _, rfl, rfl⟩
  | ok result =>
    obtain ⟨answer, after⟩ := result
    obtain ⟨action, cells, means, bound, done⟩ := of_runOn parse_removeText ran
    obtain ⟨removal, planned, means⟩ := bind_eq_ok means
    obtain rfl := of_planDelete_user keeps.has planned
    obtain rfl := Except.ok.inj means
    obtain rfl : [.integer id] = cells := Except.ok.inj bound
    obtain ⟨outcome, removed, done⟩ := bind_eq_ok done
    obtain ⟨rfl, rfl⟩ := Prod.mk.inj (Except.ok.inj done)
    obtain ⟨kept, silent⟩ := of_userRemoval keeps rfl removed
    have rowless : outcome.answer.rows.isEmpty = true := by
      rw [silent]
      rfl
    simp only [rowless, if_true]
    exact .inr ⟨_, _, rfl, outside, kept⟩

end Registrar
