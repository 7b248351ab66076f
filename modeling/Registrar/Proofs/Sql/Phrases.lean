import Registrar.Proofs.Sql.Refusal
import Registrar.Proofs.Sql.Spelling

/-!
# Phrases of statements

How the parts of questions and changes are read: their outputs, tables, conditions and assignments.
A part is at its end before a comma or before a word that begins another part, so that each can be
read for itself, whatever stands behind it.  What follows says what whole statements are read as once
their expressions are read, and that they are not read where an expression or a name is not.
-/

namespace Registrar.Sql

open Registrar.Text Token

variable {t u w : Token} {rest ts us : List Token} {sql : List Char}

section Ends

/-- Words that begin another part of a statement. -/
def enders : List String :=
  ["FROM", "WHERE", "LEFT", "ORDER"]

/-- Whether a part of a statement is at its end before some tokens. -/
inductive Halts : List Token → Prop where
  | nothing : Halts []
  | comma {t : Token} {ts : List Token} : t.isSymbol "," = true → Halts (t :: ts)
  | closing {t : Token} {ts : List Token} : t.isSymbol ")" = true → Halts (t :: ts)
  | word {t : Token} {ts : List Token} {text : String} : text ∈ enders → t.isWord text = true →
      Halts (t :: ts)

/-- What is a keyword is that one and no other. -/
theorem isWord_iff_of_isWord {word : String} (isWord : t.isWord word = true) (other : String) :
    t.isWord other = (word == other) := by
  simp only [Token.isWord, Bool.and_eq_true, beq_iff_eq] at isWord
  simp [Token.isWord, isWord]

/-- A keyword is no symbol. -/
theorem isSymbol_of_isWord {word : String} (isWord : t.isWord word = true) (symbol : String) :
    t.isSymbol symbol = false := by
  simp [Token.isSymbol, kind_of_isWord isWord]

/-- A symbol is no keyword. -/
theorem isWord_of_isSymbol {symbol : String} (isSymbol : t.isSymbol symbol = true) (word : String) :
    t.isWord word = false := by
  simp [Token.isWord, kind_of_isSymbol isSymbol]

/-- A keyword that is there is passed over. -/
theorem skipWord?_cons {word : String} (isWord : t.isWord word = true) (rest : List Token) :
    skipWord? word (t :: rest) = some rest := by
  rw [skipWord?, if_pos isWord]

/-- A symbol that is there is passed over. -/
theorem skipSymbol?_cons {symbol : String} (isSymbol : t.isSymbol symbol = true) (rest : List Token) :
    skipSymbol? symbol (t :: rest) = some rest := by
  rw [skipSymbol?, if_pos isSymbol]

/-- A keyword that is expected is passed over. -/
theorem expectWord_cons {word : String} (isWord : t.isWord word = true) (rest : List Token) :
    expectWord word (t :: rest) = .ok rest := by
  rw [expectWord, if_pos isWord]

/-- A name that is expected is passed over. -/
theorem readName_cons (isName : t.isName = true) (rest : List Token) :
    readName (t :: rest) = .ok (t, rest) := by
  rw [readName, if_pos isName]

namespace Halts

/-- No expression goes on at the end of a part. -/
theorem stops (halts : Halts rest) : Stops 0 rest := by
  cases halts with
  | nothing => trivial
  | comma isComma => exact stops_symbol isComma rfl 0 _
  | closing closes => exact stops_symbol closes rfl 0 _
  | @word t ts text known isWord =>
    have silent : ∀ text ∈ enders, text ≠ "ESCAPE" ∧ wordFollow text = none := by decide
    obtain ⟨other, none⟩ := silent text known
    refine ⟨?_, fun follow follows => ?_⟩
    · rw [isWord_iff_of_isWord isWord]
      simpa using other
    · rw [follow?_of_isWord isWord, none] at follows
      cases follows

/-- No keyword that belongs to a part stands at its end. -/
theorem skipWord? (halts : Halts rest) {word : String} (other : word ∉ enders) :
    Sql.skipWord? word rest = none := by
  cases halts with
  | nothing => rfl
  | comma isComma => simp [Sql.skipWord?, isWord_of_isSymbol isComma]
  | closing closes => simp [Sql.skipWord?, isWord_of_isSymbol closes]
  | @word t ts text known isWord =>
    have differ : text ≠ word := fun same => other (same ▸ known)
    simp [Sql.skipWord?, isWord_iff_of_isWord isWord, differ]

/-- No symbol but a comma or a closing parenthesis stands at the end of a part. -/
theorem skipSymbol? (halts : Halts rest) {symbol : String} (other : symbol ∉ [",", ")"]) :
    Sql.skipSymbol? symbol rest = none := by
  rw [List.mem_cons, List.mem_singleton, not_or] at other
  cases halts with
  | nothing => rfl
  | comma isComma => simp [Sql.skipSymbol?, isSymbol_eq isComma, Ne.symm other.1]
  | closing closes => simp [Sql.skipSymbol?, isSymbol_eq closes, Ne.symm other.2]
  | word _ isWord => simp [Sql.skipSymbol?, isSymbol_of_isWord isWord]

/-- Nothing is given a name at the end of a part. -/
theorem readAlias (halts : Halts rest) : Sql.readAlias rest = .ok (none, rest) := by
  have unnamed : Sql.skipWord? "AS" rest = none := halts.skipWord? (by decide)
  cases halts with
  | nothing => rfl
  | @comma t ts isSymbol | @closing t ts isSymbol =>
    have loose : t.isLooseName = false := by
      rw [Token.isLooseName, kind_of_isSymbol isSymbol]
    simp [Sql.readAlias, unnamed, loose]
  | @word t ts text known isWord =>
    have kept : ∀ text ∈ enders,
        (!reservedWords.contains text && !joinWords.contains text) = false := by
      decide
    have loose : t.isLooseName = false := by
      simp only [Token.isWord, Bool.and_eq_true, beq_iff_eq] at isWord
      rw [Token.isLooseName, isWord.1]
      simp only [isReserved, isWord.2]
      exact kept text known
    simp [Sql.readAlias, unnamed, loose]

end Halts

/-- A mark at the end of a part is read as its parameter. -/
theorem readWhole_parameter (kind : t.kind = .parameter) (range : 1 ≤ t.slot ∧ t.slot ≤ 32766)
    (halts : Halts rest) : readWhole (t :: rest) = .ok (.parameter t.slot, rest) :=
  readExpr_parameter kind range halts.stops (by simp [exprFuel])

end Ends

section Lists

variable {α : Type} {item : List Token → Except Stop (α × List Token)}

/-- The tokens of several items, with commas between them. -/
inductive Separated : List (List Token) → List Token → Prop where
  | one {ts : List Token} : Separated [ts] ts
  | more {comma : Token} {ts us : List Token} {parts : List (List Token)} :
      comma.isSymbol "," = true → Separated parts us → Separated (ts :: parts) (ts ++ comma :: us)

/-- There are at least as many tokens as commas. -/
theorem Separated.length_le {parts : List (List Token)} (separated : Separated parts ts) :
    parts.length ≤ ts.length + 1 := by
  induction separated with
  | one => simp
  | more _ _ ih =>
    simp only [List.length_cons, List.length_append]
    omega

/-- A token of an item stands among all tokens. -/
theorem Separated.mem_of_mem {parts : List (List Token)} (separated : Separated parts ts)
    {part : List Token} (among : part ∈ parts) (mem : t ∈ part) : t ∈ ts := by
  induction separated with
  | one => rwa [← List.mem_singleton.1 among]
  | more _ _ ih =>
    rw [List.mem_append, List.mem_cons]
    rcases List.mem_cons.1 among with rfl | among
    · exact .inl mem
    · exact .inr (.inr (ih among))

/-- Items that are read one by one are read as a list. -/
theorem readCommas_of_separated {pieces : List (List Token × α)}
    (separated : Separated (pieces.map Prod.fst) ts) (halts : Halts rest)
    (ends : skipSymbol? "," rest = none)
    (each : ∀ piece ∈ pieces, ∀ behind, Halts behind →
      item (piece.1 ++ behind) = .ok (piece.2, behind)) :
    readCommas item (ts ++ rest) = .ok (pieces.map Prod.snd, rest) := by
  have fueled := separated.length_le
  have read : ∀ {fuel}, pieces.length ≤ fuel →
      readList item fuel (ts ++ rest) = .ok (pieces.map Prod.snd, rest) := by
    generalize same : pieces.map Prod.fst = parts at separated
    clear fueled
    induction separated generalizing pieces with
    | one =>
      intro fuel enough
      obtain ⟨piece, others, rfl, rfl, none⟩ := List.map_eq_cons_iff.1 same
      obtain rfl := List.map_eq_nil_iff.1 none
      obtain ⟨fuel, rfl⟩ := Nat.exists_eq_add_of_le' (show 1 ≤ fuel from enough)
      simp [readList, each piece List.mem_cons_self rest halts, ends, bind, Except.bind]
    | @more comma ts us parts isComma _ ih =>
      intro fuel enough
      obtain ⟨piece, others, rfl, rfl, behind⟩ := List.map_eq_cons_iff.1 same
      rw [List.length_cons] at enough
      obtain ⟨fuel, rfl⟩ := Nat.exists_eq_add_of_le' (show 1 ≤ fuel by omega)
      have first := each piece List.mem_cons_self (comma :: (us ++ rest)) (.comma isComma)
      have read := ih (fun other mem => each other (List.mem_cons_of_mem piece mem)) behind
        (show others.length ≤ fuel by omega)
      simp [readList, first, skipSymbol?_cons isComma, read, bind, Except.bind]
  refine read ?_
  rw [List.length_map] at fueled
  simp only [List.length_append]
  omega

/-- Items of which one is not read are not read as a list. -/
theorem readCommas_of_failing {parts : List (List Token)} (separated : Separated parts ts)
    {part : List Token} (among : part ∈ parts)
    (fails : ∀ behind, ∃ stop, item (part ++ behind) = .error stop)
    (each : ∀ part ∈ parts, ∀ behind, Halts behind →
      ∀ a left, item (part ++ behind) = .ok (a, left) → left = behind) (rest : List Token) :
    ∃ stop, readCommas item (ts ++ rest) = .error stop := by
  have read : ∀ fuel, ∃ stop, readList item fuel (ts ++ rest) = .error stop := by
    induction separated with
    | one =>
      intro fuel
      obtain rfl := List.mem_singleton.1 among
      cases fuel with
      | zero => exact ⟨_, rfl⟩
      | succ fuel => exact error_bind (fails rest)
    | @more comma ts us parts isComma _ ih =>
      intro fuel
      cases fuel with
      | zero => exact ⟨_, rfl⟩
      | succ fuel =>
        rw [List.append_assoc, List.cons_append, readList]
        cases first : item (ts ++ comma :: (us ++ rest)) with
        | error stop => exact ⟨stop, rfl⟩
        | ok result =>
          obtain ⟨a, left⟩ := result
          obtain rfl := each ts List.mem_cons_self _ (.comma isComma) a left first
          have behind : part ∈ parts := by
            refine (List.mem_cons.1 among).resolve_left fun same => ?_
            subst same
            obtain ⟨stop, refused⟩ := fails (comma :: (us ++ rest))
            rw [refused] at first
            cases first
          obtain ⟨stop, refused⟩ := ih behind
            (fun other mem => each other (List.mem_cons_of_mem ts mem)) fuel
          exact ⟨stop, by simp [skipSymbol?_cons isComma, refused, bind, Except.bind]⟩
  exact read _

end Lists

section Tables

variable {kind : JoinKind} {name dot column : Token}

/-- A table that is read under its own name. -/
theorem readTable_bare (isName : name.isName = true) (halts : Halts rest) :
    readTable kind (name :: rest) = .ok (⟨kind, name.unquoted, none, none, []⟩, rest) := by
  have schemaless : skipSymbol? "." rest = none := halts.skipSymbol? (by decide)
  have free : skipWord? "ON" rest = none := halts.skipWord? (by decide)
  have unshared : skipWord? "USING" rest = none := halts.skipWord? (by decide)
  simp [readTable, readName_cons isName, schemaless, halts.readAlias, free, unshared, bind,
    Except.bind, pure, Except.pure]

/-- No table is joined at the end of a part, unless a word or comma says so. -/
theorem readJoined_nil (isWhere : w.isWord "WHERE" = true) (fuel : Nat) :
    readJoined (fuel + 1) (w :: rest) = .ok ([], w :: rest) := by
  simp [readJoined, readJoin, skipSymbol?, skipWord?, isSymbol_of_isWord isWhere,
    isWord_iff_of_isWord isWhere, bind, Except.bind]

end Tables

section Queries

/-- Reads what stands behind the condition of a query. -/
def readBehind (outputs : List Output) (sources : List Source) (condition : Option Expr)
    (ts : List Token) : Except Stop (Select × List Token) := do
  let (groupBy, rest) ← readClause "GROUP" "BY" readGroupTerm ts
  let (having, rest) ← match skipWord? "HAVING" rest with
    | some rest => do
      let (e, rest) ← readWhole rest
      pure (some e, rest)
    | none => pure (none, rest)
  let (orderBy, rest) ← readClause "ORDER" "BY" readOrderTerm rest
  match skipWord? "LIMIT" rest with
  | none => .ok (⟨false, outputs, sources, condition, groupBy, having, orderBy, none, none⟩, rest)
  | some rest => do
    let (first, rest) ← readWhole rest
    let (limit, offset, rest) ← match skipWord? "OFFSET" rest with
      | some rest => do
        let (e, rest) ← readWhole rest
        pure (some first, some e, rest)
      | none =>
        match skipSymbol? "," rest with
        | some rest => do
          let (e, rest) ← readWhole rest
          pure (some e, some first, rest)
        | none => pure (some first, none, rest)
    .ok (⟨false, outputs, sources, condition, groupBy, having, orderBy, limit, offset⟩, rest)

/-- A query that asks for no more than rows that meet a condition. -/
def plainQuery (outputs : List Output) (sources : List Source) (condition : Option Expr) : Select :=
  ⟨false, outputs, sources, condition, [], none, [], none, none⟩

/-- A query for all columns of the rows of a table that meet a condition. -/
def rowsQuery (table : String) (e : Expr) : Select :=
  plainQuery [.all] [⟨.inner, table, none, none, []⟩] (some e)

/-- Behind the condition of a query nothing needs to stand. -/
theorem readBehind_nil (outputs : List Output) (sources : List Source) (condition : Option Expr) :
    readBehind outputs sources condition [] = .ok (plainQuery outputs sources condition, []) :=
  rfl

/-- A query is read part by part, and last of all its condition. -/
theorem readSelect_eq {outputs : List Output} {source : Source} {sources : List Source}
    {vs ws : List Token} (plain : ∀ word ∈ ["DISTINCT", "ALL"], t.isWord word = false)
    (shown : readCommas (readOutput sql) (t :: ts) = .ok (outputs, u :: us))
    (isFrom : u.isWord "FROM" = true) (first : readTable .inner us = .ok (source, vs))
    (others : readJoined (vs.length + 1) vs = .ok (sources, ws)) :
    readSelect sql (t :: ts) =
      (readCondition ws >>= fun b => readBehind outputs (source :: sources) b.1 b.2) := by
  have repeated : skipWord? "DISTINCT" (t :: ts) = none := by
    simp [skipWord?, plain "DISTINCT" (by simp)]
  have all : skipWord? "ALL" (t :: ts) = none := by
    simp [skipWord?, plain "ALL" (by simp)]
  simp only [readSelect, repeated, all, Option.or_none, Option.getD_none, shown,
    skipWord?_cons isFrom, first, others, Option.isSome_none, bind, Except.bind, pure, Except.pure]
  rfl

/-- The star asks for all columns. -/
theorem readOutput_star (isStar : t.isSymbol "*" = true) (rest : List Token) :
    readOutput sql (t :: rest) = .ok (.all, rest) := by
  rcases rest with _ | ⟨u, _ | ⟨v, rest⟩⟩ <;> simp [readOutput, isStar]

/-- A query for all columns is read up to its table. -/
theorem readCommas_star (isStar : t.isSymbol "*" = true) (isFrom : u.isWord "FROM" = true)
    (rest : List Token) : readCommas (readOutput sql) (t :: u :: rest) = .ok ([.all], u :: rest) := by
  have ends : skipSymbol? "," (u :: rest) = none := by
    simp [skipSymbol?, isSymbol_of_isWord isFrom]
  simp [readCommas, readList, readOutput_star isStar, ends, bind, Except.bind]

end Queries

section Conditions

/-- A condition is what stands behind its word. -/
theorem readCondition_cons (isWhere : w.isWord "WHERE" = true) (ts : List Token) :
    readCondition (w :: ts) = (readWhole ts >>= fun b => .ok (some b.1, b.2)) := by
  rw [readCondition, skipWord?_cons isWhere]

variable {s f n : Token}

/-- A question for all columns of a table is read once its condition is, if its table is a name. -/
theorem readStatement_select (isSelect : s.isWord "SELECT" = true) (isStar : t.isSymbol "*" = true)
    (isFrom : f.isWord "FROM" = true) (isWhere : w.isWord "WHERE" = true) (ts : List Token) :
    readStatement sql (s :: t :: f :: n :: w :: ts) =
      if n.isName then readWhole ts >>= fun b =>
        readBehind [.all] [⟨.inner, n.unquoted, none, none, []⟩] (some b.1) b.2 >>= fun query =>
          .ok (.select query.1, query.2)
      else .error (.here (n :: w :: ts)) := by
  simp only [Token.isWord, Bool.and_eq_true, beq_iff_eq] at isSelect
  by_cases isName : n.isName = true
  · have halts : Halts (w :: ts) := .word (by decide) isWhere
    have shown : readCommas (readOutput sql) (t :: f :: n :: w :: ts) = .ok ([.all], f :: n :: w :: ts) :=
      readCommas_star isStar isFrom (n :: w :: ts)
    have read := readSelect_eq (fun word _ => isWord_of_isSymbol isStar word) shown isFrom
      (readTable_bare isName halts)
      (readJoined_nil isWhere (w :: ts).length)
    simp only [readStatement, isSelect, read, readCondition_cons isWhere, if_pos isName]
    cases readWhole ts <;> rfl
  · have repeated : skipWord? "DISTINCT" (t :: f :: n :: w :: ts) = none := by
      simp [skipWord?, isWord_of_isSymbol isStar]
    have all : skipWord? "ALL" (t :: f :: n :: w :: ts) = none := by
      simp [skipWord?, isWord_of_isSymbol isStar]
    simp only [readStatement, isSelect, readSelect, repeated, all, Option.or_none, Option.getD_none,
      readCommas_star isStar isFrom, skipWord?_cons isFrom, readTable, readName, if_neg isName, bind,
      Except.bind]
    rfl

/-- A removal is read once its condition is, if its table is a name. -/
theorem readStatement_delete (isDelete : s.isWord "DELETE" = true) (isFrom : f.isWord "FROM" = true)
    (isWhere : w.isWord "WHERE" = true) (ts : List Token) :
    readStatement sql (s :: f :: n :: w :: ts) =
      if n.isName then readWhole ts >>= fun b =>
        readReturning sql b.2 >>= fun r => .ok (.delete n.unquoted (some b.1) r.1, r.2)
      else .error (.here (n :: w :: ts)) := by
  simp only [Token.isWord, Bool.and_eq_true, beq_iff_eq] at isDelete
  simp only [readStatement, isDelete, readDelete, expectWord_cons isFrom, readName, bind, Except.bind]
  by_cases isName : n.isName = true
  · simp only [if_pos isName, readCondition_cons isWhere]
    cases readWhole ts <;> rfl
  · simp only [if_neg isName]
    rfl

/-- A change is read once its assignments and its condition are. -/
theorem readStatement_update (isUpdate : s.isWord "UPDATE" = true) (isName : n.isName = true)
    (isSet : u.isWord "SET" = true) (us : List Token) :
    readStatement sql (s :: n :: u :: us) =
      (readCommas readAssignment us >>= fun a => readCondition a.2 >>= fun b =>
        readReturning sql b.2 >>= fun r => .ok (.update n.unquoted a.1 b.1 r.1, r.2)) := by
  simp only [Token.isWord, Bool.and_eq_true, beq_iff_eq] at isUpdate
  simp only [readStatement, isUpdate, readUpdate, readName_cons isName, expectWord_cons isSet, bind,
    Except.bind]
  rfl

end Conditions

section Assignments

variable {n e m : Token}

/-- A column is assigned a parameter. -/
theorem readAssignment_eq (equals : e.isSymbol "=" = true) (rest : List Token) :
    readAssignment (n :: e :: rest) =
      if n.isName then readWhole rest >>= fun b => .ok ((n.unquoted, b.1), b.2)
      else .error (.here (n :: e :: rest)) := by
  by_cases isName : n.isName = true
  · rw [if_pos isName, readAssignment, readName_cons isName]
    simp only [expectSymbol_cons equals, bind, Except.bind]
  · rw [if_neg isName, readAssignment, readName, if_neg isName]
    rfl

/-- The tokens of an assignment are those of a column, the sign and a mark. -/
structure Assigns (n e m : Token) : Prop where
  equals : e.isSymbol "=" = true
  marks : m.kind = .parameter

/-- A mark is assigned to a column if the word for the column can name one and the mark has a number
that a statement may give. -/
theorem Assigns.read (assigns : Assigns n e m) (isName : n.isName = true)
    (range : 1 ≤ m.slot ∧ m.slot ≤ 32766) (halts : Halts rest) :
    readAssignment ([n, e, m] ++ rest) = .ok ((n.unquoted, .parameter m.slot), rest) := by
  have mark := readWhole_parameter assigns.marks range halts
  simp [readAssignment_eq assigns.equals, isName, mark, bind, Except.bind]

/-- No mark is assigned to what cannot name a column, nor one with another number. -/
theorem Assigns.fails (assigns : Assigns n e m)
    (bad : ¬ (n.isName = true ∧ 1 ≤ m.slot ∧ m.slot ≤ 32766)) (rest : List Token) :
    ∃ stop, readAssignment ([n, e, m] ++ rest) = .error stop := by
  have written : [n, e, m] ++ rest = n :: e :: m :: rest := rfl
  rw [written, readAssignment_eq assigns.equals]
  split
  · next isName => exact error_bind (readExpr_beyond assigns.marks (fun range => bad ⟨isName, range⟩) _ 0 rest)
  · exact ⟨_, rfl⟩

/-- What the tokens of an assignment are. -/
def assignment (name : String) : List (TokenKind × List Char) :=
  [word name, equals, mark]

/-- There is one mark in each assignment. -/
theorem parameterCount_assignments (names : List String) :
    parameterCount ([comma].intercalate (names.map assignment)) = names.length := by
  rw [parameterCount_commas (n := 1) fun name _ => by simp [assignment, word, equals, mark],
    Nat.mul_one]

/-- Marks that are assigned to columns, numbered from the next number on. -/
def assignedMarks (k : Nat) (names : List String) : List (String × Expr) :=
  (names.zipIdx (k + 1)).map fun entry => (entry.1, .parameter entry.2)

/-- The columns that marks are assigned to. -/
theorem map_assignedMarks (k : Nat) (names : List String) :
    (assignedMarks k names).map Prod.fst = names := by
  rw [assignedMarks, List.map_map]
  exact List.zipIdx_map_fst (k + 1) names

/-- Whether a column can be named as it is, and the marks among some tokens have numbers that a
statement may give. -/
def CanAssign (piece : List Token × (String × Expr)) : Prop :=
  isReserved piece.2.1 = false ∧ ∀ t ∈ piece.1, t.kind = .parameter → t.slot ≤ 32766

/-- The tokens of an assignment, with what they assign if they can. -/
structure IsAssignment (piece : List Token × (String × Expr)) : Prop where
  reads : CanAssign piece → ∀ behind, Halts behind →
    readAssignment (piece.1 ++ behind) = .ok (piece.2, behind)
  fails : ¬ CanAssign piece → ∀ behind, ∃ stop, readAssignment (piece.1 ++ behind) = .error stop

/-- What is read of an assignment is the assignment. -/
theorem IsAssignment.eq_of_read {piece : List Token × (String × Expr)} (form : IsAssignment piece)
    (halts : Halts rest) {result : (String × Expr) × List Token}
    (done : readAssignment (piece.1 ++ rest) = .ok result) : result = (piece.2, rest) := by
  by_cases can : CanAssign piece
  · rw [form.reads can rest halts] at done
    exact (Except.ok.inj done).symm
  · obtain ⟨stop, refused⟩ := form.fails can rest
    rw [refused] at done
    cases done

/-- The tokens of the assignment of a mark. -/
theorem isAssignment_of_tokens {name : String} {k : Nat} (named : n.lexeme = word name)
    (assigns : Assigns n e m) (number : m.slot = k + 1) :
    IsAssignment ([n, e, m], (name, .parameter (k + 1))) := by
  have isName := isName_of_word named
  have own : ∀ t ∈ [n, e, m], t.kind = .parameter → t = m := by
    have first : n.kind = .word := (of_word named).1
    have second := kind_of_isSymbol assigns.equals
    simp [first, second]
  constructor
  · intro can behind halts
    have within := can.2 m (by simp) assigns.marks
    have read := assigns.read (by rw [isName, can.1]; rfl) ⟨by omega, within⟩ halts
    rwa [unquoted_of_word named, number] at read
  · intro cannot behind
    refine assigns.fails (fun good => cannot ⟨by simpa [isName] using good.1, ?_⟩) behind
    intro t mem parameter
    rw [own t mem parameter]
    exact good.2.2

/-- The tokens of assignments with commas between them are those of one after another. -/
theorem separated_assignments {names : List String} (present : names ≠ []) {k : Nat} {us : List Token}
    (written : us.map lexeme = [comma].intercalate (names.map assignment))
    (numbered : Numbered k us) :
    ∃ pieces : List (List Token × (String × Expr)), Separated (pieces.map Prod.fst) us ∧
      pieces.map Prod.snd = assignedMarks k names ∧ ∀ piece ∈ pieces, IsAssignment piece := by
  induction names generalizing k us with
  | nil => exact absurd rfl present
  | cons name names ih =>
    have first {us : List Token} {ls : List (TokenKind × List Char)}
        (written : us.map lexeme = word name :: equals :: mark :: ls) (numbered : Numbered k us) :
        ∃ n e m rest, us = n :: e :: m :: rest ∧ rest.map lexeme = ls ∧ Numbered (k + 1) rest ∧
          IsAssignment ([n, e, m], (name, .parameter (k + 1))) := by
      obtain ⟨n, us, rfl, named, written, numbered⟩ :=
        tokens_of_cons (word_ne_parameter name) written numbered
      obtain ⟨e, us, rfl, isSign, written, numbered⟩ := tokens_of_cons (by decide) written numbered
      obtain ⟨m, rest, rfl, kind, number, written, numbered⟩ := tokens_of_mark written numbered
      have sign : e.isSymbol "=" = true := isSymbol_of_symbol isSign "="
      exact ⟨n, e, m, rest, rfl, written, numbered,
        isAssignment_of_tokens named ⟨sign, kind⟩ number⟩
    cases names with
    | nil =>
      obtain ⟨n, e, m, rest, rfl, none, -, form⟩ := first written numbered
      obtain rfl := List.map_eq_nil_iff.1 none
      refine ⟨[([n, e, m], (name, .parameter (k + 1)))], .one, rfl, fun piece mem => ?_⟩
      rwa [List.mem_singleton.1 mem]
    | cons other names =>
      have written : us.map lexeme = word name :: equals :: mark ::
          comma :: [comma].intercalate ((other :: names).map assignment) := by
        rw [written, List.map_cons, List.map_cons, List.intercalate_cons_cons]
        rfl
      obtain ⟨n, e, m, rest, rfl, written, numbered, form⟩ := first written numbered
      obtain ⟨c, us, rfl, isComma, written, numbered⟩ := tokens_of_cons (by decide) written numbered
      obtain ⟨pieces, separated, values, forms⟩ := ih (List.cons_ne_nil _ _) written numbered
      have between : c.isSymbol "," = true := isSymbol_of_symbol isComma ","
      refine ⟨([n, e, m], (name, .parameter (k + 1))) :: pieces, .more between separated,
        ?_, List.forall_mem_cons.2 ⟨form, forms⟩⟩
      rw [List.map_cons, values]
      rfl

/-- Marks are assigned to columns that are no keywords, as long as there are numbers for the marks. -/
theorem readAssignments_of_free {names : List String} (present : names ≠ []) {k : Nat}
    {us : List Token} (written : us.map lexeme = [comma].intercalate (names.map assignment))
    (numbered : Numbered k us) (isWhere : w.isWord "WHERE" = true)
    (free : ∀ name ∈ names, isReserved name = false) (few : k + names.length ≤ 32766)
    (ts : List Token) :
    readCommas readAssignment (us ++ w :: ts) = .ok (assignedMarks k names, w :: ts) := by
  obtain ⟨pieces, separated, values, forms⟩ := separated_assignments present written numbered
  have marks : parameterCount (us.map lexeme) = names.length := by
    rw [written, parameterCount_assignments]
  have can : ∀ piece ∈ pieces, CanAssign piece := by
    intro piece mem
    refine ⟨?_, fun t among kind => ?_⟩
    · have named : piece.2.1 ∈ names := by
        rw [← map_assignedMarks k names, ← values, List.map_map]
        exact List.mem_map_of_mem mem
      exact free _ named
    · obtain ⟨-, most⟩ :=
        numbered.range t (separated.mem_of_mem (List.mem_map_of_mem mem) among) kind
      omega
  have ends : skipSymbol? "," (w :: ts) = none := by
    simp [skipSymbol?, isSymbol_of_isWord isWhere]
  have read := readCommas_of_separated separated (.word (by decide) isWhere) ends fun piece mem =>
    (forms piece mem).reads (can piece mem)
  rw [read, values]

/-- Assignments that are read are those of marks to columns, none of which is a keyword. -/
theorem of_readAssignments {names : List String} (present : names ≠ []) {k : Nat} {us : List Token}
    (written : us.map lexeme = [comma].intercalate (names.map assignment))
    (numbered : Numbered k us) (isWhere : w.isWord "WHERE" = true)
    {result : List (String × Expr) × List Token}
    (done : readCommas readAssignment (us ++ w :: ts) = .ok result) :
    (∀ name ∈ names, isReserved name = false) ∧ result = (assignedMarks k names, w :: ts) := by
  obtain ⟨pieces, separated, values, forms⟩ := separated_assignments present written numbered
  have halts : Halts (w :: ts) := .word (by decide) isWhere
  have ends : skipSymbol? "," (w :: ts) = none := by
    simp [skipSymbol?, isSymbol_of_isWord isWhere]
  -- an assignment that is not read would stop the reading of all
  have can : ∀ piece ∈ pieces, CanAssign piece := by
    intro piece mem
    refine Classical.byContradiction fun cannot => ?_
    have others : ∀ part ∈ pieces.map Prod.fst, ∀ behind, Halts behind → ∀ a left,
        readAssignment (part ++ behind) = .ok (a, left) → left = behind := by
      intro part among behind halts a left read
      obtain ⟨other, here, rfl⟩ := List.mem_map.1 among
      exact (Prod.mk.inj ((forms other here).eq_of_read halts read)).2
    obtain ⟨stop, refused⟩ := readCommas_of_failing separated
      (List.mem_map_of_mem mem) ((forms piece mem).fails cannot) others (w :: ts)
    rw [refused] at done
    cases done
  have read := readCommas_of_separated separated halts ends fun piece mem =>
    (forms piece mem).reads (can piece mem)
  rw [read, values] at done
  refine ⟨fun name mem => ?_, (Except.ok.inj done).symm⟩
  rw [← map_assignedMarks k names, ← values, List.map_map] at mem
  obtain ⟨piece, among, rfl⟩ := List.mem_map.1 mem
  exact (can piece among).1

end Assignments

end Registrar.Sql
