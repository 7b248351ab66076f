import Registrar.Proofs.Filter.Guard
import Registrar.Proofs.Sql.Remaining
import Registrar.Proofs.Sql.Scanning
import Registrar.Proofs.Transaction

/-!
# Changes of rows

Insertions, changes and removals are all or nothing.  Their statements begin with a word that says
what they are, so that whatever a caller puts behind it is read as part of an insertion, a change
or a removal, and never as a statement that ends the transaction it runs in.
-/

namespace Registrar

namespace Sql

open Token

/-- Whether a statement inserts, changes or removes rows. -/
def Statement.ChangesRows : Statement → Prop
  | .insert _ _ _ _ | .update _ _ _ _ | .delete _ _ _ => True
  | _ => False

/-- What an insertion, a change or a removal means is one. -/
theorem changesRows_of_prepare {s : Store} {source : String} {statement : Statement}
    {action : Action} (changes : statement.ChangesRows)
    (means : s.prepare source statement = .ok action) :
    action.ChangesRows := by
  cases statement with
  | insert table columns rows returning =>
    obtain ⟨insertion, -, means⟩ := bind_eq_ok means
    rw [← Except.ok.inj means]
    trivial
  | update table assignments condition returning =>
    obtain ⟨revision, -, means⟩ := bind_eq_ok means
    rw [← Except.ok.inj means]
    trivial
  | delete table condition returning =>
    obtain ⟨removal, -, means⟩ := bind_eq_ok means
    rw [← Except.ok.inj means]
    trivial
  | _ => cases changes

/-- Whether a statement inserts rows, at least one. -/
def Statement.InsertsRows : Statement → Prop
  | .insert _ _ (.values rows) _ => rows ≠ []
  | .insert _ _ .defaults _ => True
  | _ => False

/-- An insertion changes rows. -/
theorem Statement.InsertsRows.changesRows {statement : Statement} (inserts : statement.InsertsRows) :
    statement.ChangesRows := by
  cases statement with
  | insert table columns rows returning => trivial
  | _ => cases inserts

/-- Whatever statement a reading yields has a property. -/
def ReadsKind (P : Statement → Prop) (read : Except Stop (Statement × List Token)) : Prop :=
  Yields read fun result => P result.1

namespace ReadsKind

variable {P Q : Statement → Prop}

/-- A reading yields what has a property if its last step does. -/
theorem bind {α : Type} {x : Except Stop α} {f : α → Except Stop (Statement × List Token)}
    (last : ∀ a, x = .ok a → ReadsKind P (f a)) : ReadsKind P (x >>= f) :=
  have read : Yields x fun a => x = .ok a := fun _ same => same
  Yields.bind read last

/-- What is yielded is what is read. -/
theorem ok {result : Statement × List Token} (holds : P result.1) : ReadsKind P (.ok result) :=
  Yields.ok holds

/-- What is yielded has the properties that follow from what it is known to have. -/
theorem mono {read : Except Stop (Statement × List Token)} (reads : ReadsKind P read)
    (follows : ∀ statement, P statement → Q statement) : ReadsKind Q read :=
  fun result done => follows result.1 (reads result done)

end ReadsKind

/-- Items that are read are not none. -/
theorem readCommas_ne_nil {α : Type} {item : List Token → Except Stop (α × List Token)}
    {ts rest : List Token} {items : List α} (read : readCommas item ts = .ok (items, rest)) :
    items ≠ [] := by
  rw [readCommas, readList] at read
  obtain ⟨⟨a, after⟩, -, read⟩ := bind_eq_ok read
  dsimp only at read
  split at read
  · obtain ⟨⟨as, left⟩, -, read⟩ := bind_eq_ok read
    rw [← (Prod.mk.inj (Except.ok.inj read)).1]
    exact List.cons_ne_nil a as
  · rw [← (Prod.mk.inj (Except.ok.inj read)).1]
    exact List.cons_ne_nil a []

/-- What is read behind the word for insertion inserts rows. -/
theorem readsKind_insert (sql : List Char) (ts : List Token) :
    ReadsKind Statement.InsertsRows (readInsert sql ts) := by
  have returning (table : String) (columns : Option (List String)) (rows : NewRows)
      (some : Statement.InsertsRows (.insert table columns rows [])) (rest : List Token) :
      ReadsKind Statement.InsertsRows (readReturning sql rest >>= fun returned =>
        .ok (.insert table columns rows returned.1, returned.2)) := by
    refine .bind fun _ _ => .ok ?_
    cases rows <;> exact some
  have defaults (table : String) (columns : Option (List String)) (rest : List Token) :
      ReadsKind Statement.InsertsRows (expectWord "VALUES" rest >>= fun rest =>
        readReturning sql rest >>= fun returned =>
          .ok (.insert table columns .defaults returned.1, returned.2)) :=
    .bind fun rest _ => returning table columns .defaults trivial rest
  have values (table : String) (columns : Option (List String)) (rest : List Token) :
      ReadsKind Statement.InsertsRows (expectWord "VALUES" rest >>= fun rest =>
        readCommas readRow rest >>= fun rows =>
          readReturning sql rows.2 >>= fun returned =>
            .ok (.insert table columns (.values rows.1) returned.1, returned.2)) :=
    .bind fun _ _ => .bind fun rows read =>
      returning table columns (.values rows.1) (readCommas_ne_nil read) rows.2
  -- columns may be named or not; the rows stand behind them
  refine .bind fun _ _ => .bind fun _ _ => ?_
  dsimp only
  split
  · refine .bind fun _ _ => .bind fun _ _ => ?_
    split
    · exact defaults _ _ _
    · exact values _ _ _
  · refine .bind fun _ _ => ?_
    split
    · exact defaults _ _ _
    · exact values _ _ _

/-- What is read behind the word for change is one. -/
theorem readsKind_update (sql : List Char) (ts : List Token) :
    ReadsKind Statement.ChangesRows (readUpdate sql ts) :=
  .bind fun _ _ => .bind fun _ _ => .bind fun _ _ => .bind fun _ _ => .bind fun _ _ => .ok trivial

/-- What is read behind the word for removal is one. -/
theorem readsKind_delete (sql : List Char) (ts : List Token) :
    ReadsKind Statement.ChangesRows (readDelete sql ts) :=
  .bind fun _ _ => .bind fun _ _ => .bind fun _ _ => .bind fun _ _ => .ok trivial

/-- The words that changes of rows begin with. -/
def changeWords : List String :=
  ["INSERT", "UPDATE", "DELETE"]

/-- A statement that begins with the word for insertion inserts rows. -/
theorem readsKind_statement_insert {t : Token} (kind : t.kind = .word) (word : t.text = "INSERT")
    (sql : List Char) (ts : List Token) :
    ReadsKind Statement.InsertsRows (readStatement sql (t :: ts)) := by
  have insertion : Text.upperAscii "INSERT" = "INSERT" := by decide
  simp only [readStatement, kind, word, insertion]
  exact readsKind_insert sql ts

/-- A statement that begins with the word of a change of rows is one. -/
theorem readsKind_statement {t : Token} (kind : t.kind = .word) (word : t.text ∈ changeWords)
    (sql : List Char) (ts : List Token) :
    ReadsKind Statement.ChangesRows (readStatement sql (t :: ts)) := by
  simp only [changeWords, List.mem_cons, List.not_mem_nil, or_false] at word
  have revision : Text.upperAscii "UPDATE" = "UPDATE" := by decide
  have removal : Text.upperAscii "DELETE" = "DELETE" := by decide
  rcases word with word | word | word
  · exact (readsKind_statement_insert kind word sql ts).mono fun _ inserts => inserts.changesRows
  · simp only [readStatement, kind, word, revision]
    exact readsKind_update sql ts
  · simp only [readStatement, kind, word, removal]
    exact readsKind_delete sql ts

/-- A text that begins with a word is read as what begins with that word, or as nothing. -/
theorem reads_of_parse {P : Statement → Prop} {text word : String} {rest : List Char}
    (known : word ∈ changeWords) (begins : text.toList = word.toList ++ ' ' :: rest)
    (reads : ∀ t ts, t.kind = .word → t.text = word → ReadsKind P (readStatement text.toList (t :: ts)))
    {parsed : Parsed} {statement : Statement} (read : parse text = .ok parsed)
    (found : parsed.statement = some statement) : P statement := by
  have valid : isIdentifierChars word.toList = true :=
    (show ∀ word ∈ changeWords, isIdentifierChars word.toList = true by decide) word known
  obtain ⟨t, ts, scanned, kind, source⟩ := scan_of_word valid begins
  have noSymbol : t.isSymbol ";" = false := by simp [Token.isSymbol, kind]
  have noParameter : t.kind ≠ .parameter := by
    rw [kind]
    decide
  have isWord : t.text = word := by rw [Token.text, source, String.ofList_toList]
  have tokens : numberSlots ⟨0, []⟩ ((scan text).dropWhile fun t => t.isSymbol ";") =
      t :: numberSlots ⟨0, []⟩ ts := by
    rw [scanned, List.dropWhile_cons, noSymbol]
    simp only [Bool.false_eq_true, if_false, numberSlots, noParameter]
  have holds := reads t (numberSlots ⟨0, []⟩ ts) kind isWord
  unfold parse at read
  simp only [tokens] at read
  split at read
  · cases read
  · next result left readWhole =>
    have own := holds _ readWhole
    split at read
    · rw [← Except.ok.inj read] at found
      rwa [← Option.some.inj found]
    · split at read
      · rw [← Except.ok.inj read] at found
        rwa [← Option.some.inj found]
      · cases read

end Sql

namespace Call

open Registrar.Sql (Store)

/-- A statement that is found meaningful has been read. -/
theorem of_ready {store : Store} {statement : Statement} {action : Sql.Action} {cells : List Sql.Cell}
    (means : ready store statement = .ok (action, cells)) :
    ∃ parsed built, Sql.parse statement.text = .ok parsed ∧ parsed.statement = some built ∧
      store.prepare parsed.source built = .ok action := by
  unfold ready at means
  split at means
  · cases means
  · next found isReady =>
    obtain ⟨bound, -, means⟩ := bind_eq_ok means
    split at means
    · next action' acts =>
      obtain ⟨rfl, -⟩ := Prod.mk.inj (Except.ok.inj means)
      exact Store.of_ready isReady acts
    · cases means

/-- A statement whose text begins with the word of a change of rows is one. -/
theorem changesRows_of_begins {statement : Statement} {word : String} {rest : List Char}
    (known : word ∈ Sql.changeWords)
    (begins : statement.text.toList = word.toList ++ ' ' :: rest) : ChangesRows statement := by
  intro store action cells means
  obtain ⟨parsed, built, read, found, prepared⟩ := of_ready means
  refine Sql.changesRows_of_prepare (Sql.reads_of_parse known begins ?_ read found) prepared
  exact fun t ts kind word => Sql.readsKind_statement kind (by rwa [word]) _ ts

/-- The statement of an insertion begins with the word for insertion. -/
theorem begins_insertStatement (table : String) (pairs : List (String × Value)) :
    ∃ rest, (insertStatement table pairs).text.toList = "INSERT".toList ++ ' ' :: rest := by
  unfold insertStatement
  split
  · exact ⟨_, by simp only [String.toList_append, List.append_assoc]; rfl⟩
  · exact ⟨_, by simp only [String.toList_append, List.append_assoc]; rfl⟩

/-- The statement of an insertion changes rows. -/
theorem changesRows_insertStatement (table : String) (pairs : List (String × Value)) :
    ChangesRows (insertStatement table pairs) := by
  obtain ⟨rest, begins⟩ := begins_insertStatement table pairs
  exact changesRows_of_begins (by decide) begins

/-- The statement of an insertion inserts rows. -/
theorem insertsRows_insertStatement {table : String} {pairs : List (String × Value)}
    {parsed : Sql.Parsed} {built : Sql.Statement}
    (read : Sql.parse (insertStatement table pairs).text = .ok parsed)
    (found : parsed.statement = some built) : built.InsertsRows := by
  obtain ⟨rest, begins⟩ := begins_insertStatement table pairs
  refine Sql.reads_of_parse (by decide) begins ?_ read found
  exact fun t ts kind word => Sql.readsKind_statement_insert kind word _ ts

/-- The statement of a change changes rows. -/
theorem changesRows_updateStatement {table : String} {values : Entries Value}
    {condition : Condition} {statement : Statement}
    (built : updateStatement table values condition = .ok statement) :
    ChangesRows statement := by
  obtain ⟨rest, begins⟩ := begins_updateStatement built
  exact changesRows_of_begins (by decide) begins

/-- The statement of a removal changes rows. -/
theorem changesRows_deleteStatement {table : String} {condition : Option Condition}
    {statement : Statement} (built : deleteStatement table condition = .ok statement) :
    ChangesRows statement := by
  obtain ⟨rest, begins⟩ := begins_deleteStatement built
  exact changesRows_of_begins (by decide) begins

/-- A call changes all or nothing.  If it fails, the tables, with their counters, the transaction
and the settings are as before.  If it succeeds, no transaction was or is open, and the store is
what the call's statement alone makes of it. -/
structure AllOrNothing {α : Type} (call : Call α) : Prop where
  failed : ∀ session f after, call.outcome session = (.error f, after) →
    Unchanged session.store after.store
  done : ∀ session a after, call.outcome session = (.ok a, after) →
    session.store.saved = none ∧ after.store.saved = none ∧ ∃ statement answer,
      after.log = entry statement :: session.log ∧
      runOn session.store statement = .ok (answer, after.store) ∧ answer.rows = []

/-- In a transaction of its caller, a call fails and leaves the transaction open with its
contents. -/
def RefusedInside {α : Type} (call : Call α) : Prop :=
  ∀ session : Session, session.store.inTransaction = true →
    ∃ f after, call.outcome session = (.error f, after) ∧ Unchanged session.store after.store

namespace AllOrNothing

variable {α β : Type}

/-- What changes all or nothing is refused in a transaction of its caller. -/
theorem refusedInside {call : Call α} (atomic : AllOrNothing call) : RefusedInside call := by
  intro session inside
  rcases yields : call.outcome session with ⟨f | a, after⟩
  · exact ⟨f, after, rfl, atomic.failed session f after yields⟩
  · have outside := (atomic.done session a after yields).1
    rw [Store.inTransaction, outside] at inside
    cases inside

/-- A statement that changes rows is carried out all or nothing. -/
theorem change {statement : Statement} (changes : ChangesRows statement) :
    AllOrNothing (Call.change statement) := by
  constructor
  · intro session f after yields
    rw [outcome_change] at yields
    obtain ⟨-, rfl⟩ := Prod.mk.inj yields
    rcases changeOn_cases changes session.store with ⟨fault, after, carried, same⟩ |
      ⟨n, answer, after, carried, -⟩
    · rw [carried]
      exact same
    · rw [carried] at yields
      cases (Prod.mk.inj yields).1
  · intro session n after yields
    rw [outcome_change] at yields
    obtain ⟨result, rfl⟩ := Prod.mk.inj yields
    rcases changeOn_cases changes session.store with ⟨fault, after, carried, -⟩ |
      ⟨n, answer, after, carried, outside, closed, ran, rows⟩
    · rw [carried] at result
      cases result
    · rw [carried]
      exact ⟨outside, closed, statement, answer, rfl, ran, rows⟩

/-- What needs no session may come before what changes all or nothing. -/
theorem lift {x : Except Failure β} {next : β → Call α}
    (atomic : ∀ b, x = .ok b → AllOrNothing (next b)) : AllOrNothing (Call.lift x >>= next) := by
  cases x with
  | error f =>
    have outcome : ∀ session, (Call.lift (.error f) >>= next).outcome session =
        (.error f, session) := fun session => by rw [outcome_bind, outcome_lift]
    constructor
    · intro session g after yields
      rw [outcome] at yields
      rw [← (Prod.mk.inj yields).2]
      exact .refl _
    · intro session a after yields
      rw [outcome] at yields
      cases (Prod.mk.inj yields).1
  | ok b => exact atomic b rfl

/-- Looking at the store may come before what changes all or nothing. -/
theorem store {next : Store → Call α} (atomic : ∀ store, AllOrNothing (next store)) :
    AllOrNothing (Call.store >>= next) := by
  have outcome : ∀ session, (Call.store >>= next).outcome session =
      (next session.store).outcome session := fun session => by rw [outcome_bind, outcome_store]
  constructor
  · intro session f after yields
    exact (atomic session.store).failed session f after (by rw [← outcome, yields])
  · intro session a after yields
    exact (atomic session.store).done session a after (by rw [← outcome, yields])

/-- What only looks at the store may come behind what changes all or nothing. -/
theorem look {call : Call α} (atomic : AllOrNothing call) (f : Store → β) :
    AllOrNothing (discard call >>= fun _ => Call.store >>= fun store => pure (f store)) := by
  have outcome : ∀ session,
      (discard call >>= fun _ => Call.store >>= fun store => pure (f store)).outcome session =
        ((call.outcome session).1.map fun _ => f (call.outcome session).2.store,
          (call.outcome session).2) := by
    intro session
    rw [outcome_bind, outcome_discard]
    rcases call.outcome session with ⟨g | a, after⟩ <;> rfl
  constructor
  · intro session g after yields
    rw [outcome] at yields
    rcases result : call.outcome session with ⟨f' | a, after'⟩
    · rw [result] at yields
      obtain rfl := (Prod.mk.inj yields).2
      exact atomic.failed session f' after' result
    · rw [result] at yields
      cases (Prod.mk.inj yields).1
  · intro session b after yields
    rw [outcome] at yields
    rcases result : call.outcome session with ⟨f' | a, after'⟩
    · rw [result] at yields
      cases (Prod.mk.inj yields).1
    · rw [result] at yields
      obtain rfl := (Prod.mk.inj yields).2
      exact atomic.done session a after' result

/-- Insertions change all or nothing. -/
theorem insert (table : String) (values : Entries Value) :
    AllOrNothing (Call.insert table values) :=
  .store fun _ => .lift fun _ _ => .lift fun pairs _ =>
    (change (changesRows_insertStatement table pairs)).look Store.lastId

/-- Insertions of records change all or nothing. -/
theorem insertAs (type : RecordType) (table : String) (values : Entries Value) :
    AllOrNothing (Call.insertAs type table values) :=
  .lift fun record _ => insert table record.columnValues

/-- Changes of rows change all or nothing. -/
theorem update (table : String) (values : Entries Value) (condition : Condition) :
    AllOrNothing (Call.update table values condition) :=
  .lift fun _ built => change (changesRows_updateStatement built)

/-- Removals change all or nothing. -/
theorem delete (table : String) (condition : Option Condition) :
    AllOrNothing (Call.delete table condition) :=
  .lift fun _ built => change (changesRows_deleteStatement built)

end AllOrNothing

end Call

open Call

/-- Every insertion, change and removal, with whatever arguments, is all or nothing, and is refused
in a transaction of its caller, which stays open with its contents. -/
theorem mutations_all_or_nothing :
    (∀ table values,
      AllOrNothing (insert table values) ∧ RefusedInside (insert table values)) ∧
    (∀ type table values,
      AllOrNothing (insertAs type table values) ∧ RefusedInside (insertAs type table values)) ∧
    (∀ table values condition,
      AllOrNothing (update table values condition) ∧
        RefusedInside (update table values condition)) ∧
    (∀ table condition,
      AllOrNothing (delete table condition) ∧ RefusedInside (delete table condition)) := by
  refine ⟨?_, ?_, ?_, ?_⟩
  · intro table values
    have atomic := AllOrNothing.insert table values
    exact ⟨atomic, atomic.refusedInside⟩
  · intro type table values
    have atomic := AllOrNothing.insertAs type table values
    exact ⟨atomic, atomic.refusedInside⟩
  · intro table values condition
    have atomic := AllOrNothing.update table values condition
    exact ⟨atomic, atomic.refusedInside⟩
  · intro table condition
    have atomic := AllOrNothing.delete table condition
    exact ⟨atomic, atomic.refusedInside⟩

end Registrar
