import Registrar.Proofs.Sql.Closing
import Registrar.Sql.Reader

/-!
# Statements that are written out

What a text that is known in full is read as.  Cutting it into tokens and reading a statement from
these tokens are done apart; and a text of several statements is read one statement at a time, since
what stands behind the first one does not change its tokens.
-/

namespace Registrar.Sql

open Token

/-- A word at a place. -/
def wordAt (text : String) (place : Nat) : Token :=
  ⟨.word, text.toList, place, 0⟩

/-- A symbol at a place. -/
def symbolAt (text : String) (place : Nat) : Token :=
  ⟨.symbol, text.toList, place, 0⟩

/-- A quoted text at a place. -/
def stringAt (text : String) (place : Nat) : Token :=
  ⟨.string, text.toList, place, 0⟩

/-- A mark at a place, with the number of its parameter. -/
def markAt (place slot : Nat) : Token :=
  ⟨.parameter, ['?'], place, slot⟩

/-- The greatest number of a parameter among some tokens. -/
def mostSlot (ts : List Token) : Nat :=
  ts.foldl (fun n t => max n t.slot) 0

/-- Tokens in front are numbered as if nothing stood behind them. -/
theorem numberSlots_append (slots : Slots) (ts us : List Token) :
    ∃ behind, numberSlots slots (ts ++ us) = numberSlots slots ts ++ numberSlots behind us := by
  induction ts generalizing slots with
  | nil => exact ⟨slots, rfl⟩
  | cons t ts ih =>
    rw [List.cons_append, numberSlots, numberSlots]
    split
    · obtain ⟨behind, same⟩ := ih _
      exact ⟨behind, congrArg _ same⟩
    · obtain ⟨behind, same⟩ := ih slots
      exact ⟨behind, congrArg _ same⟩

/-- As many bytes as a text has are dropped by dropping the text. -/
theorem dropBytes_append (cs rest : List Char) : dropBytes (byteLength cs) (cs ++ rest) = rest := by
  induction cs with
  | nil => cases rest <;> rfl
  | cons c cs ih =>
    have positive := c.utf8Size_pos
    obtain ⟨n, count⟩ : ∃ n, byteLength (c :: cs) = n + 1 := by
      rw [byteLength_cons]
      exact ⟨c.utf8Size + byteLength cs - 1, by omega⟩
    have others : n + 1 - c.utf8Size = byteLength cs := by
      rw [← count, byteLength_cons]
      omega
    rw [count, List.cons_append, dropBytes, others, ih]

/-- Bytes that a text has are dropped from it, whatever stands behind it. -/
theorem dropBytes_append_of_le {n : Nat} {cs : List Char} (within : n ≤ byteLength cs)
    (rest : List Char) : dropBytes n (cs ++ rest) = dropBytes n cs ++ rest := by
  induction cs generalizing n with
  | nil =>
    obtain rfl : n = 0 := Nat.le_zero.1 within
    cases rest <;> rfl
  | cons c cs ih =>
    cases n with
    | zero => rfl
    | succ n =>
      rw [byteLength_cons] at within
      exact ih (by omega)

/-- Bytes that a text has are taken from it, whatever stands behind it. -/
theorem takeBytes_append_of_le {n : Nat} {cs : List Char} (within : n ≤ byteLength cs)
    (rest : List Char) : takeBytes n (cs ++ rest) = takeBytes n cs := by
  induction cs generalizing n with
  | nil =>
    obtain rfl : n = 0 := Nat.le_zero.1 within
    cases rest <;> rfl
  | cons c cs ih =>
    cases n with
    | zero => rfl
    | succ n =>
      rw [byteLength_cons] at within
      exact congrArg (c :: ·) (ih (by omega))

/-- No more bytes than are to be dropped go away, up to the width of a character. -/
theorem byteLength_le_dropBytes {n : Nat} {cs : List Char} (ascii : ∀ c ∈ cs, c.utf8Size = 1) :
    byteLength cs ≤ n + byteLength (dropBytes n cs) := by
  induction cs generalizing n with
  | nil => exact Nat.zero_le _
  | cons c cs ih =>
    cases n with
    | zero => exact Nat.le_add_left _ _
    | succ n =>
      have single := ascii c List.mem_cons_self
      have others := ih (n := n) fun other mem => ascii other (List.mem_cons_of_mem c mem)
      rw [byteLength_cons, dropBytes, single, Nat.add_sub_cancel]
      omega

/-- The text between two places of a text does not depend on what stands behind it. -/
theorem between_append {cs : List Char} (ascii : ∀ c ∈ cs, c.utf8Size = 1) {start stop : Nat}
    (order : start ≤ stop) (within : stop ≤ byteLength cs) (rest : List Char) :
    between (cs ++ rest) start stop = between cs start stop := by
  have left := byteLength_le_dropBytes (n := start) ascii
  rw [between, between, dropBytes_append_of_le (by omega), takeBytes_append_of_le (by omega)]

/-- Parsing reads the numbered tokens of a text, unless it begins with the end of a statement. -/
theorem parse_eq {sql : String} {t : Token} {ts : List Token}
    (tokens : numbered sql = t :: ts) (begins : t.isSymbol ";" = false) :
    parse sql = match readStatement sql.toList (t :: ts) with
      | .error stop => .error stop.toFault
      | .ok (statement, rest) =>
        match rest with
        | [] => .ok ⟨some statement, mostSlot ((t :: ts).take ((t :: ts).length - rest.length)), sql,
            []⟩
        | stop :: _ =>
          if stop.isSymbol ";" then
            let behind := dropBytes stop.stop sql.toList
            .ok ⟨some statement, mostSlot ((t :: ts).take ((t :: ts).length - rest.length)),
              String.ofList (sql.toList.take (sql.toList.length - behind.length)), behind⟩
          else .error (Stop.here rest).toFault := by
  have kept : (scan sql).dropWhile (fun t => t.isSymbol ";") = scan sql := by
    rw [numbered] at tokens
    cases scanned : scan sql with
    | nil => rfl
    | cons u us =>
      have same : lexeme u = lexeme t := by
        have lexemes := map_lexeme_numberSlots ⟨0, []⟩ (scan sql)
        rw [tokens, scanned] at lexemes
        exact (List.cons.inj lexemes).1.symm
      have kind : u.kind = t.kind := congrArg Prod.fst same
      have source : u.source = t.source := congrArg Prod.snd same
      have other : u.isSymbol ";" = false := by
        rw [← begins, Token.isSymbol, Token.isSymbol, Token.text, Token.text, kind, source]
      simp [other]
  unfold parse
  rw [kept]
  rw [numbered] at tokens
  simp only [tokens]
  rfl

/-- A text is a statement as a whole if all of its tokens are read. -/
theorem parse_whole {sql : String} {t : Token} {ts : List Token} {statement : Statement}
    (tokens : numbered sql = t :: ts) (begins : t.isSymbol ";" = false)
    (reads : readStatement sql.toList (t :: ts) = .ok (statement, [])) :
    parse sql = .ok ⟨some statement, mostSlot (t :: ts), sql, []⟩ := by
  rw [parse_eq tokens begins, reads]
  simp

/-- A text that begins with a closed text is read as its statement if that is read up to the end of
a statement, whatever stands behind it. -/
theorem parse_first {first : String} {t stop : Token} {ts : List Token} {statement : Statement}
    (closed : isClosed first = true) (tokens : numbered first = t :: (ts ++ [stop]))
    (begins : t.isSymbol ";" = false) (ends : stop.isSymbol ";" = true)
    (last : stop.stop = byteLength first.toList) {sql : String} {rest : List Char}
    (text : sql.toList = first.toList ++ rest) (breaks : Breaks rest)
    (reads : ∀ more, readStatement (first.toList ++ rest) (t :: (ts ++ stop :: more)) =
      .ok (statement, stop :: more)) :
    parse sql = .ok ⟨some statement, mostSlot (t :: ts), first, rest⟩ := by
  obtain ⟨more, tokens⟩ : ∃ more, numbered sql = t :: (ts ++ stop :: more) := by
    have cut := (cuts_of_isClosed closed).scans 0 rest breaks
    obtain ⟨behind, parts⟩ :=
      numberSlots_append ⟨0, []⟩ (scan first) (scanAt (0 + byteLength first.toList) rest)
    have whole : scan sql = scan first ++ scanAt (0 + byteLength first.toList) rest := by
      rw [← text] at cut
      exact cut
    rw [numbered] at tokens
    refine ⟨numberSlots behind (scanAt (0 + byteLength first.toList) rest), ?_⟩
    rw [numbered, whole, parts, tokens]
    simp
  have read := reads more
  rw [← text] at read
  have consumed : (t :: (ts ++ stop :: more)).take
      ((t :: (ts ++ stop :: more)).length - (stop :: more).length) = t :: ts := by
    have count : (t :: (ts ++ stop :: more)).length - (stop :: more).length = (t :: ts).length := by
      simp only [List.length_cons, List.length_append]
      omega
    rw [count, ← List.cons_append, List.take_left]
  have left : dropBytes stop.stop sql.toList = rest := by rw [last, text, dropBytes_append]
  have source : sql.toList.take (sql.toList.length - rest.length) = first.toList := by
    rw [text, List.length_append, Nat.add_sub_cancel, List.take_left]
  rw [parse_eq tokens begins, read]
  simp only [ends, if_true, left, source, consumed, String.ofList_toList]

end Registrar.Sql
