import Registrar.Proofs.Sql.Assigning
import Registrar.Proofs.Users

/-!
# New rows

How an insertion is read that gives marks for the names of some columns, or nothing, and what row it
adds.  The row has the cells that are bound to the marks where their names say, as the columns store
them; every other column has its default, and the id is the one that is given or the next one.
-/

namespace Registrar.Sql

open Registrar.Text Token Database

section Reading

variable {s i n o c v p q : Token} {rest ts us : List Token} {sql : List Char} {names : List String}

/-- The tokens of names with commas between them are one for each name. -/
theorem separated_names (present : names ≠ [])
    (written : us.map lexeme = [comma].intercalate (names.map fun name => [word name])) :
    ∃ pieces : List (List Token × Token), Separated (pieces.map Prod.fst) us ∧
      pieces.map (fun piece => piece.2.unquoted) = names ∧
      ∀ piece ∈ pieces, piece.1 = [piece.2] ∧ ∃ name ∈ names, piece.2.lexeme = word name := by
  induction names generalizing us with
  | nil => exact absurd rfl present
  | cons name names ih =>
    cases names with
    | nil =>
      obtain ⟨t, us, rfl, first, none⟩ := List.map_eq_cons_iff.1 written
      obtain rfl := List.map_eq_nil_iff.1 none
      refine ⟨[([t], t)], .one, by simp [unquoted_of_word first], fun piece mem => ?_⟩
      rw [List.mem_singleton.1 mem]
      exact ⟨rfl, name, List.mem_cons_self, first⟩
    | cons other names =>
      have written : us.map lexeme = word name :: comma ::
          [comma].intercalate ((other :: names).map fun name => [word name]) := by
        rw [written, List.map_cons, List.map_cons, List.intercalate_cons_cons]
        rfl
      obtain ⟨t, us, rfl, first, written⟩ := List.map_eq_cons_iff.1 written
      obtain ⟨between, us, rfl, isComma, written⟩ := List.map_eq_cons_iff.1 written
      obtain ⟨pieces, separated, texts, each⟩ := ih (List.cons_ne_nil _ _) written
      have whole : Separated ([t] :: pieces.map Prod.fst) ([t] ++ between :: us) :=
        .more (isSymbol_of_symbol isComma ",") separated
      refine ⟨([t], t) :: pieces, whole, by simp [unquoted_of_word first, texts], ?_⟩
      refine List.forall_mem_cons.2 ⟨⟨rfl, name, List.mem_cons_self, first⟩, fun piece mem => ?_⟩
      obtain ⟨single, own, among, isName⟩ := each piece mem
      exact ⟨single, own, List.mem_cons_of_mem name among, isName⟩

/-- Names in parentheses are read as these names if none is a keyword. -/
theorem readNames_of_lexemes (present : names ≠ []) (free : ∀ name ∈ names, isReserved name = false)
    (opens : o.isSymbol "(" = true)
    (written : us.map lexeme = [comma].intercalate (names.map fun name => [word name]))
    (closes : c.isSymbol ")" = true) : readNames (o :: (us ++ c :: rest)) = .ok (names, rest) := by
  obtain ⟨pieces, separated, texts, each⟩ := separated_names present written
  have ends : skipSymbol? "," (c :: rest) = none := by
    simp [skipSymbol?, isSymbol_eq closes]
  have read := readCommas_of_separated separated (.closing closes) ends fun piece mem behind _ => by
    obtain ⟨single, name, among, isName⟩ := each piece mem
    rw [single, List.singleton_append]
    exact readName_cons (by rw [isName_of_word isName, free name among]; rfl) behind
  simp only [readNames, expectSymbol_cons opens, expectSymbol_cons closes, read, bind, Except.bind,
    List.map_map]
  exact congrArg (fun names => Except.ok (names, rest)) texts

/-- Marks in parentheses are read as their parameters if their numbers are in range. -/
theorem readRow_marks {es : List Expr} (opens : o.isSymbol "(" = true) (marks : Marks ts es)
    (range : InRange ts) (closes : c.isSymbol ")" = true) :
    readRow (o :: (ts ++ c :: rest)) = .ok (es, rest) := by
  have fueled : ts.length + 2 ≤ exprFuel (ts ++ c :: rest) := by
    simp only [exprFuel, List.length_append, List.length_cons]
    omega
  have read := readExprs_marks marks range fueled closes rest
  simp only [readRow, expectSymbol_cons opens, expectSymbol_cons closes, read, bind, Except.bind]

/-- Marks in parentheses are not read if some number is out of range. -/
theorem readRow_beyond {es : List Expr} (opens : o.isSymbol "(" = true) (marks : Marks ts es)
    (beyond : ¬ InRange ts) (rest : List Token) : ∃ stop, readRow (o :: (ts ++ rest)) = .error stop := by
  have fueled : ts.length + 1 ≤ exprFuel (ts ++ rest) := by
    simp only [exprFuel, List.length_append]
    omega
  obtain ⟨stop, failed⟩ := readExprs_beyond marks beyond fueled rest
  exact ⟨stop, by simp only [readRow, expectSymbol_cons opens, failed, bind, Except.bind]⟩

/-- An insertion that names columns is read once its row is. -/
theorem readStatement_insert (isInsert : s.isWord "INSERT" = true) (isInto : i.isWord "INTO" = true)
    (isName : n.isName = true) (opens : o.isSymbol "(" = true)
    (columns : readNames (o :: us) = .ok (names, v :: rest)) (isValues : v.isWord "VALUES" = true) :
    readStatement sql (s :: i :: n :: o :: us) =
      (readCommas readRow rest >>= fun r => readReturning sql r.2 >>= fun returning =>
        .ok (.insert n.unquoted (some names) (.values r.1) returning.1, returning.2)) := by
  simp only [Token.isWord, Bool.and_eq_true, beq_iff_eq] at isInsert
  have other : skipWord? "DEFAULT" (v :: rest) = none := by
    simp [skipWord?, isWord_iff_of_isWord isValues]
  simp only [readStatement, isInsert, readInsert, expectWord_cons isInto, readName_cons isName,
    skipSymbol?_cons opens, columns, other, expectWord_cons isValues, bind, Except.bind, pure,
    Except.pure]
  cases readCommas readRow rest <;> rfl

/-- A row at the end of an insertion is its only one. -/
theorem readCommas_row (p : Token) (rest : List Token) :
    readCommas readRow (p :: rest) = (readRow (p :: rest) >>= fun r =>
      match skipSymbol? "," r.2 with
      | some more => do
        let (rows, left) ← readList readRow (rest.length + 1) more
        .ok (r.1 :: rows, left)
      | none => .ok ([r.1], r.2)) :=
  rfl

/-- An insertion of defaults is read as such. -/
theorem readStatement_defaults (isInsert : s.isWord "INSERT" = true) (isInto : i.isWord "INTO" = true)
    (isName : n.isName = true) (isDefault : o.isWord "DEFAULT" = true)
    (isValues : v.isWord "VALUES" = true) :
    readStatement sql [s, i, n, o, v] = .ok (.insert n.unquoted none .defaults [], []) := by
  simp only [Token.isWord, Bool.and_eq_true, beq_iff_eq] at isInsert
  have closed : skipSymbol? "(" [o, v] = none := by
    simp [skipSymbol?, isSymbol_of_isWord isDefault]
  simp only [readStatement, isInsert, readInsert, expectWord_cons isInto, readName_cons isName, closed,
    skipWord?_cons isDefault, expectWord_cons isValues, bind, Except.bind, pure, Except.pure]
  rfl

end Reading

section Planning

variable {db : Database} {t : Table} {table : String} {names : List String} {es : List Expr}
  {enforcing : Bool} {insertion : Insertion}

/-- The columns that an insertion names are those of its names. -/
theorem of_insertTargets {targets : List (Option Nat)}
    (done : Database.insertTargets t table names = .ok targets) :
    targets.map some = t.targets names := by
  induction names generalizing targets with
  | nil =>
    obtain rfl := Except.ok.inj done
    rfl
  | cons name names ih =>
    rw [Database.insertTargets] at done
    split at done
    · next target known =>
      obtain ⟨others, rest, done⟩ := bind_eq_ok done
      obtain rfl := Except.ok.inj done
      rw [List.map_cons, ih rest, Table.targets, Table.targets, List.map_cons, known]
    · cases done

/-- How an insertion of a row of parameters is planned. -/
theorem planInsert_values {numbers : List Nat} (found : db.find? table = some (.table t)) :
    db.planInsert enforcing table (some names) (.values [numbers.map .parameter]) [] =
      (Database.insertTargets t table names >>= fun targets =>
        Database.checkWidth table (some names.length) t.columns.length [numbers.map .parameter] >>=
          fun _ => (if enforcing then db.checkOutgoing t t.foreignKeys else pure ()) >>= fun _ =>
            .ok ⟨t.name, targets, [numbers.map .parameter], []⟩) := by
  have changeable : db.changeable table = .ok t := by rw [Database.changeable, found]
  have nameless : Database.resolveRows ⟨[], [], false, true⟩ [numbers.map .parameter] =
      .ok [numbers.map .parameter] := by
    simp only [Database.resolveRows, resolveAll_parameters, bind, Except.bind]
  simp only [Database.planInsert, changeable, nameless, bind, Except.bind]
  cases Database.insertTargets t table names with
  | error fault => rfl
  | ok targets =>
    dsimp only [Option.map_some]
    cases Database.checkWidth table (some names.length) t.columns.length [numbers.map .parameter] with
    | error fault => rfl
    | ok _ => cases enforcing <;> rfl

/-- What an insertion of a row of parameters is planned as. -/
theorem of_planInsert_values {numbers : List Nat} (found : db.find? table = some (.table t))
    (planned : db.planInsert enforcing table (some names) (.values [numbers.map .parameter]) [] =
      .ok insertion) :
    ∃ targets, targets.map some = t.targets names ∧
      insertion = ⟨t.name, targets, [numbers.map .parameter], []⟩ := by
  rw [planInsert_values found] at planned
  obtain ⟨targets, named, planned⟩ := bind_eq_ok planned
  obtain ⟨_, -, planned⟩ := bind_eq_ok planned
  obtain ⟨_, -, planned⟩ := bind_eq_ok planned
  exact ⟨targets, of_insertTargets named, (Except.ok.inj planned).symm⟩

/-- How an insertion of defaults is planned. -/
theorem planInsert_defaults (found : db.find? table = some (.table t)) :
    db.planInsert enforcing table none .defaults [] =
      ((if enforcing then db.checkOutgoing t t.foreignKeys else pure ()) >>= fun _ =>
        .ok ⟨t.name, [], [[]], []⟩) := by
  have changeable : db.changeable table = .ok t := by rw [Database.changeable, found]
  simp only [Database.planInsert, changeable, bind, Except.bind]
  cases enforcing <;> rfl

/-- What an insertion of defaults is planned as. -/
theorem of_planInsert_defaults (found : db.find? table = some (.table t))
    (planned : db.planInsert enforcing table none .defaults [] = .ok insertion) :
    insertion = ⟨t.name, [], [[]], []⟩ := by
  rw [planInsert_defaults found] at planned
  obtain ⟨_, -, planned⟩ := bind_eq_ok planned
  exact (Except.ok.inj planned).symm

end Planning

section Names

variable {t : Table} (apart : t.columns.Pairwise fun c d => sameName c.name d.name = false)

include apart

/-- A column is found by its name. -/
theorem columnIndex?_of_column {i : Nat} {c : Column} (here : t.columns[i]? = some c) :
    t.columnIndex? c.name = some i := by
  obtain ⟨inside, isColumn⟩ := List.getElem?_eq_some_iff.1 here
  refine List.findIdx?_eq_some_iff_getElem.2 ⟨inside, ?_, fun j before => ?_⟩
  · rw [isColumn]
    exact beq_self_eq_true _
  · have other := List.pairwise_iff_getElem.1 apart j i (by omega) inside before
    rw [isColumn] at other
    rw [other]
    exact Bool.false_ne_true

/-- The name of a column means the column, or the id if the column shows it. -/
theorem targetColumn_of_column {i : Nat} {c : Column} (here : t.columns[i]? = some c) :
    targetColumn t c.name = some (if t.idColumn = some i then none else some i) := by
  rw [targetColumn, columnIndex?_of_column apart here]

/-- An insertion that names columns by their names means these. -/
theorem insertTargets_of_columns {names : List String}
    (among : ∀ name ∈ names, name ∈ t.columns.map Column.name) (written : String) :
    ∃ targets, Database.insertTargets t written names = .ok targets := by
  induction names with
  | nil => exact ⟨[], rfl⟩
  | cons name names ih =>
    obtain ⟨targets, rest⟩ := ih fun other mem => among other (List.mem_cons_of_mem _ mem)
    obtain ⟨c, mem, rfl⟩ := List.mem_map.1 (among name List.mem_cons_self)
    obtain ⟨i, here⟩ := List.mem_iff_getElem?.1 mem
    exact ⟨_, by rw [Database.insertTargets, targetColumn_of_column apart here, rest]; rfl⟩

/-- The names of some columns, in their order, mean different ones. -/
theorem nodup_targets {names : List String} (among : names.Sublist (t.columns.map Column.name)) :
    (t.targets names).Nodup := by
  refine List.Nodup.sublist (among.map (targetColumn t)) ?_
  rw [List.nodup_iff_getElem?_ne_getElem?]
  intro i j before inside
  rw [List.length_map, List.length_map] at inside
  have first := targetColumn_of_column apart (List.getElem?_eq_getElem (show i < t.columns.length by omega))
  have second := targetColumn_of_column apart (List.getElem?_eq_getElem inside)
  rw [List.getElem?_map, List.getElem?_map, List.getElem?_map, List.getElem?_map,
    List.getElem?_eq_getElem (show i < t.columns.length by omega), List.getElem?_eq_getElem inside]
  simp only [Option.map_some, first, second]
  by_cases shows : t.idColumn = some i
  · simp [shows]
    omega
  · rw [if_neg shows]
    split
    · simp
    · simp
      omega

end Names

section Rows

variable {t : Table} {env : Env} {given : List (String × Cell)} {targets : List (Option Nat)}
  {cells : List Cell} {row : Row}

/-- What a column holds in a new row that gives it nothing. -/
def Column.initial (c : Column) (env : Env) : Except Problem Cell :=
  match c.default with
  | some (_, e) => e.eval (env.ofRow [])
  | none => .ok .null

/-- A row has the cells that the names of some columns are given, as these are stored, and the defaults
of the other columns. -/
structure Table.Receives (t : Table) (env : Env) (given : List (String × Cell)) (row : Row) :
    Prop where
  fits : row.Fits t
  holds : ∀ pair ∈ given, Database.targetColumn t pair.1 ≠ some none → t.Holds row pair.1 pair.2
  others : ∀ i c, some (some i) ∉ t.targets (given.map Prod.fst) → t.idColumn ≠ some i →
    t.columns[i]? = some c →
      ∃ cell, c.initial env = .ok cell ∧ row.cells[i]? = some (Cell.store c.affinity cell)

/-- A new row has the cell that the name of a column is given, as the column stores it, but for the
column that shows the id. -/
theorem Table.Receives.cell_of_given {row : Row} (receives : t.Receives env given row)
    (apart : t.columns.Pairwise fun c d => sameName c.name d.name = false) {i : Nat} {c : Column}
    (column : t.columns[i]? = some c) (idless : t.idColumn ≠ some i) {cell : Cell}
    (mem : (c.name, cell) ∈ given) : row.cells[i]? = some (Cell.store c.affinity cell) := by
  have target : targetColumn t c.name = some (some i) := by
    rw [targetColumn_of_column apart column, if_neg idless]
  have known : targetColumn t c.name ≠ some none := by
    rw [target]
    intro same
    cases same
  have held := receives.holds (c.name, cell) mem known
  rw [Table.Holds, target] at held
  obtain ⟨d, here, holds⟩ := held
  obtain rfl := Option.some.inj (column.symm.trans here)
  exact holds

/-- Cells that are given to names are given to what the names mean. -/
theorem targets_of_zip (named : targets.map some = t.targets (given.map Prod.fst)) :
    (targets.zip (given.map Prod.snd)).map (fun entry => (some entry.1, entry.2)) =
      given.map fun pair => (Database.targetColumn t pair.1, pair.2) := by
  have both : (targets.zip (given.map Prod.snd)).map (Prod.map some id) =
      (targets.map some).zip ((given.map Prod.snd).map id) := List.zip_map.symm
  rw [List.map_id, named, Table.targets, List.map_map, List.zip_map'] at both
  exact both

/-- In the place of a column a new row has the first cell that is given to the column, or else its
default. -/
theorem getElem?_newCells {values : List Cell} {i : Nat} {c : Column}
    (collected : newCells t env targets values = .ok cells) (column : t.columns[i]? = some c) :
    ∃ cell, cells[i]? = some cell ∧
      match (targets.zip values).find? fun given => given.1 == some i with
      | some given => cell = given.2
      | none => c.initial env = .ok cell := by
  have place : t.columns.zipIdx[i]? = some (c, i) := by
    rw [List.getElem?_zipIdx, column, Nat.zero_add]
    rfl
  obtain ⟨cell, made, here⟩ := getElem?_of_mapM collected place
  refine ⟨cell, here, ?_⟩
  dsimp only at made
  cases found : (targets.zip values).find? fun given => given.1 == some i with
  | some given =>
    rw [found] at made
    exact (Except.ok.inj made).symm
  | none =>
    rw [found] at made
    exact made

/-- A row that is made of cells that are given to different columns has these and the defaults of the
others. -/
theorem receives_of_newCells (within : ∀ i, t.idColumn = some i → i < t.columns.length)
    (named : targets.map some = t.targets (given.map Prod.fst))
    (apart : (t.targets (given.map Prod.fst)).Nodup)
    (collected : newCells t env targets (given.map Prod.snd) = .ok cells)
    (stored : row.cells = t.withId row.id (t.storedCells cells)) : t.Receives env given row := by
  have means := targets_of_zip named
  have at' : ∀ i c, t.idColumn ≠ some i → t.columns[i]? = some c →
      row.cells[i]? = (cells[i]?).map (Cell.store c.affinity) := by
    intro i c other column
    rw [stored, Table.getElem?_withId, if_neg other, Table.getElem?_storedCells, column]
    rfl
  refine ⟨?_, fun pair mem notId => ?_, fun i c absent other column => ?_⟩
  · have fits := fits_stored within row.id (length_newCells collected)
    rwa [← stored] at fits
  · obtain ⟨target, known, among⟩ := mem_of_target means mem
    rw [known] at notId
    cases target with
    | none => exact absurd rfl notId
    | some i =>
      obtain ⟨other, c, column⟩ := of_targetColumn known
      have found := find?_of_distinct (distinct_of_targets means apart) among
      obtain ⟨cell, here, isGiven⟩ := getElem?_newCells collected column
      dsimp only at found
      rw [found] at isGiven
      rw [Table.Holds, known]
      exact ⟨c, column, by rw [at' i c other column, here, isGiven]; rfl⟩
  · have missing : (targets.zip (given.map Prod.snd)).find? (fun given => given.1 == some i) = none := by
      refine List.find?_eq_none.2 fun entry mem same => not_mem_of_target means absent ?_
      rw [← eq_of_beq same]
      exact List.mem_map_of_mem mem
    obtain ⟨cell, here, isDefault⟩ := getElem?_newCells collected column
    rw [missing] at isDefault
    exact ⟨cell, isDefault, by rw [at' i c other column, here]; rfl⟩

end Rows

section Running

variable {db : Database} {t : Table} {env : Env} {targets : List (Option Nat)} {exprs : List Expr}
  {enforcing : Bool} {outcome : Outcome}

/-- The store with a table that has another row, whose id is remembered if the table counts. -/
def Database.withRow (db : Database) (t : Table) (row : Row) : Database :=
  let stored := db.replace { t with rows := Table.insertRow row t.rows }
  if t.counting then
    stored.remember { t with rows := Table.insertRow row t.rows } (max (db.counted t) row.id.toInt)
  else stored

/-- A table that is sound has another row in its store afterwards. -/
theorem table?_withRow {name : String} {row : Row} (sound : db.Sound) (found : db.table? name = some t) :
    (db.withRow t row).table? name = some { t with rows := Table.insertRow row t.rows } := by
  have named := name_of_table? found
  have stored : (db.replace { t with rows := Table.insertRow row t.rows }).table? name =
      some { t with rows := Table.insertRow row t.rows } := table?_replace found named
  unfold Database.withRow
  split
  · next counting =>
    have other : sameName sequenceName name = false := by
      rw [Bool.eq_false_iff]
      intro same
      have own : sameName t.name sequenceName = true := by
        rw [sameName_comm, sameName_congr same, sameName_comm, named]
      have shape : t.shape = sequenceTable := (sound.of_table? found).2 own
      have counts : t.shape.counting = true := counting
      rw [shape] at counts
      cases counts
    rw [Database.table?, find?_remember_other other, ← Database.table?, stored]
  · exact stored

/-- An insertion of one row that succeeds adds the row, whose id is the last one then. -/
theorem of_insertion_run (found : db.table? t.name = some t)
    (ran : (Insertion.mk t.name targets [exprs] []).run db enforcing env = .ok outcome) :
    ∃ row, insertOne t env (db.counted t) targets exprs =
        .ok ({ t with rows := Table.insertRow row t.rows }, row) ∧
      outcome.database = db.withRow t row ∧ outcome.lastId = some row.id := by
  unfold Insertion.run at ran
  simp only [found] at ran
  obtain ⟨⟨grown, counted, rows⟩, inserted, ran⟩ := bind_eq_ok ran
  obtain ⟨⟨first, row⟩, one, inserted⟩ := bind_eq_ok inserted
  obtain ⟨grown', rest⟩ := Prod.mk.inj (Except.ok.inj inserted)
  obtain ⟨counted', rows'⟩ := Prod.mk.inj rest
  obtain ⟨-, -, -, -, -, -, -, grows⟩ := insertOne_cases one
  subst grown' counted' rows' grows
  refine ⟨row, one, ?_⟩
  cases enforcing with
  | false =>
    obtain ⟨_, -, ran⟩ := bind_eq_ok ran
    rw [← Except.ok.inj ran]
    exact ⟨rfl, rfl⟩
  | true =>
    obtain ⟨_, -, ran⟩ := bind_eq_ok ran
    obtain ⟨_, -, ran⟩ := bind_eq_ok ran
    rw [← Except.ok.inj ran]
    exact ⟨rfl, rfl⟩

end Running

end Registrar.Sql
