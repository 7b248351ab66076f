import Registrar.Sql.Reader

/-!
# What a reading leaves

Reading takes tokens from the front: what is left of them afterwards are the last of the tokens that
were there.  So nothing turns up behind a statement that was not among the tokens of its text.
-/

namespace Registrar.Sql

/-- Whatever a reading yields has a property. -/
def Yields {β : Type} (read : Except Stop β) (property : β → Prop) : Prop :=
  ∀ b, read = .ok b → property b

/-- What a reading leaves behind a result are the last of some tokens. -/
def Leaves {α : Type} (ts : List Token) (read : Except Stop (α × List Token)) : Prop :=
  Yields read fun result => result.2 <:+ ts

namespace Yields

variable {α β : Type} {read : Except Stop α} {property : α → Prop} {target : β → Prop}

/-- A failed reading yields nothing. -/
theorem error (stop : Stop) : Yields (.error stop) property :=
  nofun

/-- A result that has the property is yielded with it. -/
theorem ok {a : α} (has : property a) : Yields (.ok a) property := by
  rintro _ same
  rwa [← Except.ok.inj same]

/-- What a first reading yields, the next one goes on from. -/
theorem bind {next : α → Except Stop β} (first : Yields read property)
    (rest : ∀ a, property a → Yields (next a) target) : Yields (read >>= next) target := by
  intro b done
  cases result : read with
  | error stop =>
    rw [result] at done
    cases done
  | ok a =>
    rw [result] at done
    exact rest a (first a result) b done

end Yields

variable {α β : Type} {ts us rest : List Token}

namespace Leaves

/-- A result is yielded with the tokens that it leaves. -/
theorem ok {a : α} (left : rest <:+ ts) : Leaves ts (.ok (a, rest)) :=
  Yields.ok left

/-- A failed reading leaves nothing. -/
theorem error (stop : Stop) : Leaves ts (α := α) (.error stop) :=
  Yields.error stop

/-- What is left of some tokens is left of more. -/
theorem mono {read : Except Stop (α × List Token)} (first : Leaves us read) (among : us <:+ ts) :
    Leaves ts read :=
  fun result done => (first result done).trans among

end Leaves

/-- A reading goes on from what the one before it leaves. -/
theorem leaves_bind {read : Except Stop (α × List Token)} {next : α × List Token → Except Stop β}
    {target : β → Prop} (first : Leaves us read) (among : us <:+ ts)
    (then' : ∀ a rest, rest <:+ ts → Yields (next (a, rest)) target) :
    Yields (read >>= next) target :=
  Yields.bind first fun result left => then' result.1 result.2 (left.trans among)

/-- The keyword that is read is the first token. -/
theorem of_expectWord {word : String} {ts rest : List Token}
    (done : expectWord word ts = .ok rest) : ∃ t, ts = t :: rest ∧ t.isWord word = true := by
  cases ts with
  | nil => cases done
  | cons t ts =>
    rw [expectWord] at done
    split at done
    · next isWord =>
      cases done
      exact ⟨t, rfl, isWord⟩
    · cases done

/-- The symbol that is read is the first token. -/
theorem of_expectSymbol {symbol : String} {ts rest : List Token}
    (done : expectSymbol symbol ts = .ok rest) : ∃ t, ts = t :: rest ∧ t.isSymbol symbol = true := by
  cases ts with
  | nil => cases done
  | cons t ts =>
    rw [expectSymbol] at done
    split at done
    · next isSymbol =>
      cases done
      exact ⟨t, rfl, isSymbol⟩
    · cases done

/-- The keyword that is there is the first token. -/
theorem of_skipWord? {word : String} {ts rest : List Token}
    (found : skipWord? word ts = some rest) : ∃ t, ts = t :: rest ∧ t.isWord word = true := by
  cases ts with
  | nil => cases found
  | cons t ts =>
    rw [skipWord?] at found
    split at found
    · next isWord =>
      cases found
      exact ⟨t, rfl, isWord⟩
    · cases found

/-- The symbol that is there is the first token. -/
theorem of_skipSymbol? {symbol : String} {ts rest : List Token}
    (found : skipSymbol? symbol ts = some rest) : ∃ t, ts = t :: rest ∧ t.isSymbol symbol = true := by
  cases ts with
  | nil => cases found
  | cons t ts =>
    rw [skipSymbol?] at found
    split at found
    · next isSymbol =>
      cases found
      exact ⟨t, rfl, isSymbol⟩
    · cases found

/-- The name that is read is the first token. -/
theorem of_readName {t : Token} {ts rest : List Token} (done : readName ts = .ok (t, rest)) :
    ts = t :: rest ∧ t.isName = true := by
  cases ts with
  | nil => cases done
  | cons u ts =>
    rw [readName] at done
    split at done
    · next isName =>
      cases done
      exact ⟨rfl, isName⟩
    · cases done

/-- What stands behind a keyword is left. -/
theorem yields_expectWord (word : String) (ts : List Token) :
    Yields (expectWord word ts) (· <:+ ts) := by
  intro rest done
  obtain ⟨t, rfl, -⟩ := of_expectWord done
  exact List.suffix_cons t rest

/-- What stands behind a symbol is left. -/
theorem yields_expectSymbol (symbol : String) (ts : List Token) :
    Yields (expectSymbol symbol ts) (· <:+ ts) := by
  intro rest done
  obtain ⟨t, rfl, -⟩ := of_expectSymbol done
  exact List.suffix_cons t rest

/-- What stands behind a keyword that is there is left. -/
theorem suffix_of_skipWord? {word : String} (found : skipWord? word ts = some rest) :
    rest <:+ ts := by
  obtain ⟨t, rfl, -⟩ := of_skipWord? found
  exact List.suffix_cons t rest

/-- What stands behind a symbol that is there is left. -/
theorem suffix_of_skipSymbol? {symbol : String} (found : skipSymbol? symbol ts = some rest) :
    rest <:+ ts := by
  obtain ⟨t, rfl, -⟩ := of_skipSymbol? found
  exact List.suffix_cons t rest

/-- What stands behind a keyword, if it is there, is left. -/
theorem suffix_getD_skipWord? (word : String) (ts : List Token) :
    (skipWord? word ts).getD ts <:+ ts := by
  cases found : skipWord? word ts with
  | none => exact List.suffix_refl ts
  | some rest => exact suffix_of_skipWord? found

/-- What stands behind either of two keywords, if one is there, is left. -/
theorem suffix_getD_or_skipWord? (first second : String) (ts : List Token) :
    ((skipWord? first ts).or (skipWord? second ts)).getD ts <:+ ts := by
  cases found : skipWord? first ts with
  | none => exact suffix_getD_skipWord? second ts
  | some rest => exact suffix_of_skipWord? found

/-- What stands behind a name is left. -/
theorem leaves_readName (ts : List Token) : Leaves ts (readName ts) := by
  rintro ⟨t, rest⟩ done
  obtain ⟨rfl, -⟩ := of_readName done
  exact List.suffix_cons t rest

/-- A keyword is passed, and reading goes on behind it. -/
theorem leaves_expectWord {word : String} {next : List Token → Except Stop β} {target : β → Prop}
    (among : us <:+ ts) (then' : ∀ rest, rest <:+ ts → Yields (next rest) target) :
    Yields (expectWord word us >>= next) target :=
  (yields_expectWord word us).bind fun rest left => then' rest (left.trans among)

/-- A symbol is passed, and reading goes on behind it. -/
theorem leaves_expectSymbol {symbol : String} {next : List Token → Except Stop β}
    {target : β → Prop} (among : us <:+ ts)
    (then' : ∀ rest, rest <:+ ts → Yields (next rest) target) :
    Yields (expectSymbol symbol us >>= next) target :=
  (yields_expectSymbol symbol us).bind fun rest left => then' rest (left.trans among)

/-- What readings of expressions leave, with the same fuel. -/
structure Leaving (fuel : Nat) : Prop where
  expr : ∀ level ts, Leaves ts (readExpr fuel level ts)
  follows : ∀ level e ts, Leaves ts (readFollows fuel level e ts)
  identity : ∀ e ts, Leaves ts (readIdentity fuel e ts)
  test : ∀ negated e ts, Leaves ts (readTest fuel negated e ts)
  operand : ∀ ts, Leaves ts (readOperand fuel ts)
  named : ∀ t ts, Leaves ts (readNamed fuel t ts)
  call : ∀ t ts, Leaves ts (readCall fuel t ts)
  exprs : ∀ ts, Leaves ts (readExprs fuel ts)
  choice : ∀ ts, Leaves ts (readChoice fuel ts)
  branches : ∀ ts, Leaves ts (readBranches fuel ts)

/-- The words of a type leave what follows them. -/
theorem suffix_typeWords (ts : List Token) : (typeWords ts).2 <:+ ts := by
  induction ts with
  | nil => exact List.suffix_refl []
  | cons t rest ih =>
    rw [typeWords]
    split
    · exact ih.trans (List.suffix_cons t rest)
    · exact List.suffix_refl _

/-- A signed number leaves what follows it. -/
theorem leaves_readSigned (ts : List Token) : Leaves ts (readSigned ts) := by
  unfold readSigned
  split
  · next sign t rest =>
    have behind := List.suffix_cons t rest
    split
    · split
      · exact .ok (behind.trans (List.suffix_cons sign _))
      · exact .error _
    · split
      · exact .ok (List.suffix_cons sign _)
      · exact .error _
  · next t =>
    split
    · exact .ok (List.suffix_cons t [])
    · split <;> exact .error _
  · exact .error _

/-- A type leaves what follows it. -/
theorem leaves_readType (ts : List Token) : Leaves ts (readType ts) := by
  have words := suffix_typeWords ts
  unfold readType
  dsimp only
  split
  · exact .ok words
  · exact .ok words
  · next found =>
    have among := (suffix_of_skipSymbol? found).trans words
    refine leaves_bind (leaves_readSigned _) among fun _ rest left => ?_
    simp only [pure_bind]
    split
    · next more found =>
      exact leaves_bind (leaves_readSigned more) ((suffix_of_skipSymbol? found).trans left)
        fun _ rest left => leaves_expectSymbol left fun _ left => .ok left
    · exact leaves_expectSymbol left fun _ left => .ok left

/-- Reads what stands behind the branches of a choice. -/
def readEnding (fuel : Nat) (subject : Option Expr) (branches : List (Expr × Expr))
    (ts : List Token) : Except Stop (Expr × List Token) :=
  match skipWord? "ELSE" ts with
  | some rest => readExpr fuel 0 rest >>= fun e => expectWord "END" e.2 >>= fun rest =>
    .ok (.choice subject branches (some e.1), rest)
  | none => expectWord "END" ts >>= fun rest => .ok (.choice subject branches none, rest)

/-- Reads what stands behind the subject of a choice. -/
def readArms (fuel : Nat) (subject : Option Expr) (ts : List Token) :
    Except Stop (Expr × List Token) :=
  readBranches fuel ts >>= fun branches => readEnding fuel subject branches.1 branches.2

/-- A choice may have a subject. -/
theorem readChoice_succ (fuel : Nat) (ts : List Token) :
    readChoice (fuel + 1) ts =
      match skipWord? "WHEN" ts with
      | some _ => readArms fuel none ts
      | none => readExpr fuel 0 ts >>= fun e => readArms fuel (some e.1) e.2 := by
  rw [readChoice]
  cases skipWord? "WHEN" ts <;> rfl

namespace Leaving

variable {fuel : Nat}

/-- An expression leaves what follows its last operator. -/
theorem expr_succ (ih : Leaving fuel) (level : Nat) (ts : List Token) :
    Leaves ts (readExpr (fuel + 1) level ts) := by
  rw [readExpr]
  exact leaves_bind (ih.operand ts) (List.suffix_refl ts) fun e rest left =>
    (ih.follows level e rest).mono left

/-- Operators with what they take leave what follows them. -/
theorem follows_succ (ih : Leaving fuel) (level : Nat) (e : Expr) (ts : List Token) :
    Leaves ts (readFollows (fuel + 1) level e ts) := by
  cases ts with
  | nil =>
    rw [readFollows]
    exact .ok (List.suffix_refl _)
  | cons t rest =>
    have among := List.suffix_cons t rest
    have whole := List.suffix_refl (t :: rest)
    have goes : ∀ e left, left <:+ t :: rest →
        Leaves (t :: rest) (readFollows fuel level e left) :=
      fun e left among => (ih.follows level e left).mono among
    unfold readFollows
    split
    · exact .ok whole
    · split
      · exact .ok whole
      · split
        · exact leaves_bind (ih.expr _ rest) among fun b => goes _
        · exact goes _ rest among
        · exact goes _ rest among
        · refine leaves_bind (leaves_readName rest) among fun name left among => ?_
          dsimp only
          split
          · exact goes _ left among
          · exact goes _ left among
          · exact goes _ left among
          · exact .error _
        · exact leaves_bind (ih.identity e rest) among goes
        · split
          · exact .error _
          · next word rest =>
            split
            · exact goes _ rest ((List.suffix_cons word rest).trans among)
            · exact leaves_bind (ih.test true e _) among goes
        all_goals exact leaves_bind (ih.test false e _) whole goes

/-- An identity leaves what follows it. -/
theorem identity_succ (ih : Leaving fuel) (e : Expr) (ts : List Token) :
    Leaves ts (readIdentity (fuel + 1) e ts) := by
  rw [readIdentity]
  have among := suffix_getD_skipWord? "NOT" ts
  generalize (skipWord? "NOT" ts).getD ts = us at among
  dsimp only
  split
  · next t rest =>
    have behind := (List.suffix_cons t rest).trans among
    split
    · exact leaves_expectWord behind fun rest left =>
        leaves_bind (ih.expr 5 rest) left fun _ _ left => .ok left
    · split
      · exact .ok behind
      · split
        · exact .ok behind
        · exact leaves_bind (ih.expr 5 (t :: rest)) among fun _ _ left => .ok left
  · exact .error _

/-- A test leaves what follows it. -/
theorem test_succ (ih : Leaving fuel) (negated : Bool) (e : Expr) (ts : List Token) :
    Leaves ts (readTest (fuel + 1) negated e ts) := by
  cases ts with
  | nil =>
    rw [readTest]
    exact .error _
  | cons t rest =>
    have among := List.suffix_cons t rest
    unfold readTest
    split
    · refine leaves_expectSymbol among fun rest left => ?_
      split
      · next more found => exact .ok ((suffix_of_skipSymbol? found).trans left)
      · exact leaves_bind (ih.exprs rest) left fun _ rest left =>
          leaves_expectSymbol left fun _ left => .ok left
    · exact leaves_bind (ih.expr 3 rest) among fun _ rest left =>
        leaves_expectWord left fun rest left =>
          leaves_bind (ih.expr 5 rest) left fun _ _ left => .ok left
    · refine leaves_bind (ih.expr 5 rest) among fun pattern rest left => ?_
      dsimp only
      split
      · next more found =>
        exact leaves_bind (ih.expr 5 more) ((suffix_of_skipWord? found).trans left)
          fun _ _ left => .ok left
      · exact .ok left
    · exact leaves_bind (ih.expr 5 rest) among fun _ _ left => .ok left
    · exact .error _

/-- An operand leaves what follows it. -/
theorem operand_succ (ih : Leaving fuel) (ts : List Token) :
    Leaves ts (readOperand (fuel + 1) ts) := by
  cases ts with
  | nil =>
    rw [readOperand]
    exact .error _
  | cons t rest =>
    have among := List.suffix_cons t rest
    unfold readOperand
    split
    · exact .ok among
    · exact .ok among
    · exact .ok among
    · exact .ok among
    · split
      · exact .ok among
      · exact .error _
    · split
      · exact leaves_bind (ih.expr 0 rest) among fun _ rest left =>
          leaves_expectSymbol left fun _ left => .ok left
      · split
        · split
          · next d more =>
            split
            · exact .ok ((List.suffix_cons d more).trans among)
            · exact leaves_bind (ih.expr 12 (d :: more)) among fun _ _ left => .ok left
          · exact .error _
        · split
          · exact leaves_bind (ih.expr 12 rest) among fun _ _ left => .ok left
          · split
            · exact leaves_bind (ih.expr 12 rest) among fun _ _ left => .ok left
            · exact .error _
    · exact (ih.named t rest).mono among
    · exact (ih.named t rest).mono among
    · split
      · exact leaves_bind (ih.expr 3 rest) among fun _ _ left => .ok left
      · split
        · exact .ok among
        · split
          · exact leaves_expectSymbol among fun rest left =>
              leaves_bind (ih.expr 0 rest) left fun _ rest left =>
                leaves_expectWord left fun rest left =>
                  leaves_bind (leaves_readType rest) left fun _ rest left =>
                    leaves_expectSymbol left fun _ left => .ok left
          · split
            · exact (ih.choice rest).mono among
            · split
              · exact .error _
              · exact (ih.named t rest).mono among
    · exact .error _

/-- What a name starts leaves what follows it. -/
theorem named_succ (ih : Leaving fuel) (t : Token) (ts : List Token) :
    Leaves ts (readNamed (fuel + 1) t ts) := by
  rw [readNamed]
  split
  · next rest found =>
    have among := suffix_of_skipSymbol? found
    split
    · next star close more =>
      have behind : more <:+ ts :=
        ((List.suffix_cons close more).trans (List.suffix_cons star _)).trans among
      split
      · split
        · exact .ok behind
        · exact .error _
      · exact (ih.call t _).mono among
    · exact (ih.call t _).mono among
  · split
    · exact .ok (List.suffix_refl ts)
    · next rest found =>
      refine leaves_bind (leaves_readName rest) (suffix_of_skipSymbol? found) fun _ rest left => ?_
      dsimp only
      split
      · exact .ok left
      · next more found =>
        exact leaves_bind (leaves_readName more) ((suffix_of_skipSymbol? found).trans left)
          fun _ _ left => .ok left

/-- The arguments of a function leave what follows them. -/
theorem call_succ (ih : Leaving fuel) (t : Token) (ts : List Token) :
    Leaves ts (readCall (fuel + 1) t ts) := by
  rw [readCall]
  split
  · next found => exact .ok (suffix_of_skipSymbol? found)
  · have among := suffix_getD_or_skipWord? "DISTINCT" "ALL" ts
    exact leaves_bind (ih.exprs _) among fun _ rest left =>
      leaves_expectSymbol left fun _ left => .ok left

/-- Expressions leave what follows the last one. -/
theorem exprs_succ (ih : Leaving fuel) (ts : List Token) : Leaves ts (readExprs (fuel + 1) ts) := by
  rw [readExprs]
  refine leaves_bind (ih.expr 0 ts) (List.suffix_refl ts) fun _ rest left => ?_
  dsimp only
  split
  · next more found =>
    exact leaves_bind (ih.exprs more) ((suffix_of_skipSymbol? found).trans left)
      fun _ _ left => .ok left
  · exact .ok left

/-- The end of a choice leaves what follows it. -/
theorem ending (ih : Leaving fuel) (subject : Option Expr) (branches : List (Expr × Expr))
    (ts : List Token) : Leaves ts (readEnding fuel subject branches ts) := by
  unfold readEnding
  split
  · next more found =>
    exact leaves_bind (ih.expr 0 more) (suffix_of_skipWord? found)
      fun _ rest left => leaves_expectWord left fun _ left => .ok left
  · exact leaves_expectWord (List.suffix_refl ts) fun _ left => .ok left

/-- The branches of a choice leave what follows the choice. -/
theorem arms (ih : Leaving fuel) (subject : Option Expr) (ts : List Token) :
    Leaves ts (readArms fuel subject ts) :=
  leaves_bind (ih.branches ts) (List.suffix_refl ts)
    fun branches rest left => (ih.ending subject branches rest).mono left

/-- A choice leaves what follows it. -/
theorem choice_succ (ih : Leaving fuel) (ts : List Token) :
    Leaves ts (readChoice (fuel + 1) ts) := by
  rw [readChoice_succ]
  split
  · exact ih.arms none ts
  · exact leaves_bind (ih.expr 0 ts) (List.suffix_refl ts)
      fun e rest left => (ih.arms (some e) rest).mono left

/-- The branches of a choice leave what follows the last one. -/
theorem branches_succ (ih : Leaving fuel) (ts : List Token) :
    Leaves ts (readBranches (fuel + 1) ts) := by
  rw [readBranches]
  refine leaves_expectWord (List.suffix_refl ts) fun rest left => ?_
  refine leaves_bind (ih.expr 0 rest) left fun test rest left => ?_
  refine leaves_expectWord left fun rest left => ?_
  refine leaves_bind (ih.expr 0 rest) left fun e rest left => ?_
  dsimp only
  split
  · exact leaves_bind (ih.branches rest) left fun _ _ left => .ok left
  · exact .ok left

end Leaving

/-- Every reading of an expression leaves the last of its tokens. -/
theorem leaving (fuel : Nat) : Leaving fuel := by
  induction fuel with
  | zero => constructor <;> intros <;> exact .error _
  | succ fuel ih =>
    exact ⟨ih.expr_succ, ih.follows_succ, ih.identity_succ, ih.test_succ, ih.operand_succ,
      ih.named_succ, ih.call_succ, ih.exprs_succ, ih.choice_succ, ih.branches_succ⟩

/-- A whole expression leaves what follows it. -/
theorem leaves_readWhole (ts : List Token) : Leaves ts (readWhole ts) :=
  (leaving _).expr 0 ts

section Statements

variable {item : List Token → Except Stop (α × List Token)}

/-- Items leave what follows the last one. -/
theorem leaves_readList (each : ∀ ts, Leaves ts (item ts)) (fuel : Nat) (ts : List Token) :
    Leaves ts (readList item fuel ts) := by
  induction fuel generalizing ts with
  | zero => exact .error _
  | succ fuel ih =>
    rw [readList]
    refine leaves_bind (each ts) (List.suffix_refl ts) fun _ rest left => ?_
    dsimp only
    split
    · next more found =>
      exact leaves_bind (ih more) ((suffix_of_skipSymbol? found).trans left)
        fun _ _ left => .ok left
    · exact .ok left

/-- Items leave what follows the last one. -/
theorem leaves_readCommas (each : ∀ ts, Leaves ts (item ts)) (ts : List Token) :
    Leaves ts (readCommas item ts) :=
  leaves_readList each _ ts

/-- Names in parentheses leave what follows them. -/
theorem leaves_readNames (ts : List Token) : Leaves ts (readNames ts) :=
  leaves_expectSymbol (List.suffix_refl ts) fun rest left =>
    leaves_bind (leaves_readCommas leaves_readName rest) left fun _ _ left =>
      leaves_expectSymbol left fun _ left => .ok left

/-- A name that an item is given leaves what follows it. -/
theorem leaves_readAlias (ts : List Token) : Leaves ts (readAlias ts) := by
  unfold readAlias
  split
  · next rest found =>
    exact leaves_bind (leaves_readName rest) (suffix_of_skipWord? found) fun _ _ left => .ok left
  · split
    · next t rest _ =>
      split
      · exact .ok (List.suffix_cons t rest)
      · exact .ok (List.suffix_refl _)
    · exact .ok (List.suffix_refl _)

/-- A value and the name it is given leave what follows them. -/
theorem leaves_readValueOutput (sql : List Char) (ts : List Token) :
    Leaves ts (readValueOutput sql ts) :=
  leaves_bind (leaves_readWhole ts) (List.suffix_refl ts) fun _ rest left =>
    leaves_bind (leaves_readAlias rest) left fun _ _ left => .ok left

/-- An output of a query leaves what follows it. -/
theorem leaves_readOutput (sql : List Char) (ts : List Token) : Leaves ts (readOutput sql ts) := by
  unfold readOutput
  split
  · next t dot star rest =>
    have behind : rest <:+ t :: dot :: star :: rest :=
      ((List.suffix_cons star rest).trans (List.suffix_cons dot _)).trans (List.suffix_cons t _)
    split
    · exact .ok (List.suffix_cons t _)
    · split
      · exact .ok behind
      · exact leaves_readValueOutput sql _
  · next t rest _ =>
    split
    · exact .ok (List.suffix_cons t rest)
    · exact leaves_readValueOutput sql _
  · exact .error _

/-- Reads the columns that a table shares with the one before it, if they are named. -/
def readShared (kind : JoinKind) (name : Token) (given : Option String) (on : Option Expr)
    (ts : List Token) : Except Stop (Source × List Token) :=
  match skipWord? "USING" ts with
  | some rest => readNames rest >>= fun shared =>
    .ok (⟨kind, name.unquoted, given, on, shared.1⟩, shared.2)
  | none => .ok (⟨kind, name.unquoted, given, on, []⟩, ts)

/-- Reads what stands behind the name of a table to read from. -/
def readNamedTable (kind : JoinKind) (name : Token) (ts : List Token) :
    Except Stop (Source × List Token) :=
  readAlias ts >>= fun given =>
    match skipWord? "ON" given.2 with
    | some rest => readWhole rest >>= fun e => readShared kind name given.1 (some e.1) e.2
    | none => readShared kind name given.1 none given.2

/-- A table to read from is read from its name on, the last one where there are two. -/
theorem readTable_eq (kind : JoinKind) (ts : List Token) :
    readTable kind ts = readName ts >>= fun name =>
      match skipSymbol? "." name.2 with
      | some rest => readName rest >>= fun name => readNamedTable kind name.1 name.2
      | none => readNamedTable kind name.1 name.2 := by
  rfl

/-- Shared columns leave what follows them. -/
theorem leaves_readShared (kind : JoinKind) (name : Token) (given : Option String) (on : Option Expr)
    (ts : List Token) : Leaves ts (readShared kind name given on ts) := by
  unfold readShared
  split
  · next more found =>
    exact leaves_bind (leaves_readNames more) (suffix_of_skipWord? found) fun _ _ left => .ok left
  · exact .ok (List.suffix_refl ts)

/-- What stands behind the name of a table leaves what follows it. -/
theorem leaves_readNamedTable (kind : JoinKind) (name : Token) (ts : List Token) :
    Leaves ts (readNamedTable kind name ts) := by
  refine leaves_bind (leaves_readAlias ts) (List.suffix_refl ts) fun given rest left => ?_
  dsimp only
  split
  · next more found =>
    exact leaves_bind (leaves_readWhole more) ((suffix_of_skipWord? found).trans left)
      fun e rest left => (leaves_readShared kind name given (some e) rest).mono left
  · exact (leaves_readShared kind name given none rest).mono left

/-- A table to read from leaves what follows it. -/
theorem leaves_readTable (kind : JoinKind) (ts : List Token) : Leaves ts (readTable kind ts) := by
  rw [readTable_eq]
  refine leaves_bind (leaves_readName ts) (List.suffix_refl ts) fun name rest left => ?_
  dsimp only
  split
  · next more found =>
    exact leaves_bind (leaves_readName more) ((suffix_of_skipSymbol? found).trans left)
      fun name rest left => (leaves_readNamedTable kind name rest).mono left
  · exact (leaves_readNamedTable kind name rest).mono left

/-- The words of a join leave what follows them. -/
theorem leaves_readJoin (ts : List Token) : Leaves ts (readJoin ts) := by
  unfold readJoin
  split
  · next found => exact .ok (suffix_of_skipSymbol? found)
  · split
    · next found => exact .ok (suffix_of_skipWord? found)
    · split
      · next rest found =>
        have among := suffix_getD_or_skipWord? "INNER" "CROSS" ts
        rw [found, Option.getD_some] at among
        exact leaves_expectWord among fun _ left => .ok left
      · split
        · next rest found =>
          have among := (suffix_getD_skipWord? "OUTER" rest).trans (suffix_of_skipWord? found)
          exact leaves_expectWord among fun _ left => .ok left
        · exact .ok (List.suffix_refl ts)

/-- Joined tables leave what follows the last one. -/
theorem leaves_readJoined (fuel : Nat) (ts : List Token) : Leaves ts (readJoined fuel ts) := by
  induction fuel generalizing ts with
  | zero => exact .error _
  | succ fuel ih =>
    rw [readJoined]
    refine leaves_bind (leaves_readJoin ts) (List.suffix_refl ts) fun kind rest left => ?_
    cases kind with
    | none => exact .ok left
    | some kind =>
      exact leaves_bind (leaves_readTable kind rest) left fun _ rest left =>
        leaves_bind (ih rest) left fun _ _ left => .ok left

/-- A term to sort by leaves what follows it. -/
theorem leaves_readOrderTerm (ts : List Token) : Leaves ts (readOrderTerm ts) :=
  leaves_bind (leaves_readWhole ts) (List.suffix_refl ts) fun _ rest left =>
    .ok ((suffix_getD_or_skipWord? "DESC" "ASC" rest).trans left)

/-- A term to group by leaves what follows it. -/
theorem leaves_readGroupTerm (ts : List Token) : Leaves ts (readGroupTerm ts) :=
  leaves_bind (leaves_readWhole ts) (List.suffix_refl ts) fun _ _ left => .ok left

/-- A condition leaves what follows it. -/
theorem leaves_readCondition (ts : List Token) : Leaves ts (readCondition ts) := by
  unfold readCondition
  split
  · next rest found =>
    exact leaves_bind (leaves_readWhole rest) (suffix_of_skipWord? found) fun _ _ left => .ok left
  · exact .ok (List.suffix_refl ts)

/-- What stands behind two keywords leaves what follows it. -/
theorem leaves_readClause (first second : String) (each : ∀ ts, Leaves ts (item ts))
    (ts : List Token) : Leaves ts (readClause first second item ts) := by
  unfold readClause
  split
  · next found =>
    exact leaves_expectWord (suffix_of_skipWord? found) fun _ left =>
      (leaves_readCommas each _).mono left
  · exact .ok (List.suffix_refl ts)

/-- The bounds of a query leave what follows them. -/
theorem leaves_limits {build : Option Expr → Option Expr → α} {rest : List Token}
    (left : rest <:+ ts) : Leaves ts (
      match skipWord? "LIMIT" rest with
      | none => .ok (build none none, rest)
      | some rest => do
        let (first, rest) ← readWhole rest
        match skipWord? "OFFSET" rest with
        | some rest => do
          let (e, rest) ← readWhole rest
          .ok (build (some first) (some e), rest)
        | none =>
          match skipSymbol? "," rest with
          | some rest => do
            let (e, rest) ← readWhole rest
            .ok (build (some e) (some first), rest)
          | none => .ok (build (some first) none, rest)) := by
  split
  · exact .ok left
  · next more found =>
    refine leaves_bind (leaves_readWhole more) ((suffix_of_skipWord? found).trans left)
      fun first rest left => ?_
    dsimp only
    split
    · next more found =>
      exact leaves_bind (leaves_readWhole more) ((suffix_of_skipWord? found).trans left)
        fun _ _ left => .ok left
    · split
      · next more found =>
        exact leaves_bind (leaves_readWhole more) ((suffix_of_skipSymbol? found).trans left)
          fun _ _ left => .ok left
      · exact .ok left

/-- The order and the bounds of a query leave what follows them. -/
theorem leaves_ordered {build : List OrderTerm → Option Expr → Option Expr → α}
    {rest : List Token} (left : rest <:+ ts) : Leaves ts (do
      let (orderBy, rest) ← readClause "ORDER" "BY" readOrderTerm rest
      match skipWord? "LIMIT" rest with
      | none => .ok (build orderBy none none, rest)
      | some rest => do
        let (first, rest) ← readWhole rest
        match skipWord? "OFFSET" rest with
        | some rest => do
          let (e, rest) ← readWhole rest
          .ok (build orderBy (some first) (some e), rest)
        | none =>
          match skipSymbol? "," rest with
          | some rest => do
            let (e, rest) ← readWhole rest
            .ok (build orderBy (some e) (some first), rest)
          | none => .ok (build orderBy (some first) none, rest)) :=
  leaves_bind (leaves_readClause _ _ leaves_readOrderTerm rest) left fun _ _ left =>
    leaves_limits left

/-- The condition, the groups, the order and the bounds of a query leave what follows them. -/
theorem leaves_filtered {build : Option Expr → List OrderTerm → Option Expr → List OrderTerm →
      Option Expr → Option Expr → α}
    {rest : List Token} (left : rest <:+ ts) : Leaves ts (do
      let (condition, rest) ← readCondition rest
      let (groupBy, rest) ← readClause "GROUP" "BY" readGroupTerm rest
      match skipWord? "HAVING" rest with
      | some rest => do
        let (held, rest) ← readWhole rest
        let (orderBy, rest) ← readClause "ORDER" "BY" readOrderTerm rest
        match skipWord? "LIMIT" rest with
        | none => .ok (build condition groupBy (some held) orderBy none none, rest)
        | some rest => do
          let (first, rest) ← readWhole rest
          match skipWord? "OFFSET" rest with
          | some rest => do
            let (e, rest) ← readWhole rest
            .ok (build condition groupBy (some held) orderBy (some first) (some e), rest)
          | none =>
            match skipSymbol? "," rest with
            | some rest => do
              let (e, rest) ← readWhole rest
              .ok (build condition groupBy (some held) orderBy (some e) (some first), rest)
            | none => .ok (build condition groupBy (some held) orderBy (some first) none, rest)
      | none => do
        let (orderBy, rest) ← readClause "ORDER" "BY" readOrderTerm rest
        match skipWord? "LIMIT" rest with
        | none => .ok (build condition groupBy none orderBy none none, rest)
        | some rest => do
          let (first, rest) ← readWhole rest
          match skipWord? "OFFSET" rest with
          | some rest => do
            let (e, rest) ← readWhole rest
            .ok (build condition groupBy none orderBy (some first) (some e), rest)
          | none =>
            match skipSymbol? "," rest with
            | some rest => do
              let (e, rest) ← readWhole rest
              .ok (build condition groupBy none orderBy (some e) (some first), rest)
            | none => .ok (build condition groupBy none orderBy (some first) none, rest)) := by
  refine leaves_bind (leaves_readCondition rest) left fun condition rest left => ?_
  refine leaves_bind (leaves_readClause _ _ leaves_readGroupTerm rest) left
    fun groupBy rest left => ?_
  dsimp only
  split
  · next more found =>
    exact leaves_bind (leaves_readWhole more) ((suffix_of_skipWord? found).trans left)
      fun _ _ left => leaves_ordered left
  · exact leaves_ordered left

/-- A query leaves what follows it. -/
theorem leaves_readSelect (sql : List Char) (ts : List Token) : Leaves ts (readSelect sql ts) := by
  unfold readSelect
  simp only [pure_bind]
  have among := suffix_getD_or_skipWord? "DISTINCT" "ALL" ts
  refine leaves_bind (leaves_readCommas (leaves_readOutput sql) _) among fun outputs rest left => ?_
  dsimp only
  split
  · next more found =>
    exact leaves_bind (leaves_readTable .inner more) ((suffix_of_skipWord? found).trans left)
      fun source rest left => leaves_bind (leaves_readJoined _ rest) left
        fun sources _ left => leaves_filtered left
  · exact leaves_filtered left

/-- What a change returns leaves what follows it. -/
theorem leaves_readReturning (sql : List Char) (ts : List Token) :
    Leaves ts (readReturning sql ts) := by
  unfold readReturning
  split
  · next rest found =>
    exact (leaves_readCommas (leaves_readOutput sql) rest).mono (suffix_of_skipWord? found)
  · exact .ok (List.suffix_refl ts)

/-- A new value for a column leaves what follows it. -/
theorem leaves_readAssignment (ts : List Token) : Leaves ts (readAssignment ts) :=
  leaves_bind (leaves_readName ts) (List.suffix_refl ts) fun _ _ left =>
    leaves_expectSymbol left fun rest left =>
      leaves_bind (leaves_readWhole rest) left fun _ _ left => .ok left

/-- A change of rows leaves what follows it. -/
theorem leaves_readUpdate (sql : List Char) (ts : List Token) : Leaves ts (readUpdate sql ts) :=
  leaves_bind (leaves_readName ts) (List.suffix_refl ts) fun _ _ left =>
    leaves_expectWord left fun rest left =>
      leaves_bind (leaves_readCommas leaves_readAssignment rest) left fun _ rest left =>
        leaves_bind (leaves_readCondition rest) left fun _ rest left =>
          leaves_bind (leaves_readReturning sql rest) left fun _ _ left => .ok left

/-- A removal of rows leaves what follows it. -/
theorem leaves_readDelete (sql : List Char) (ts : List Token) : Leaves ts (readDelete sql ts) :=
  leaves_expectWord (List.suffix_refl ts) fun rest left =>
    leaves_bind (leaves_readName rest) left fun _ rest left =>
      leaves_bind (leaves_readCondition rest) left fun _ rest left =>
        leaves_bind (leaves_readReturning sql rest) left fun _ _ left => .ok left

end Statements

end Registrar.Sql
