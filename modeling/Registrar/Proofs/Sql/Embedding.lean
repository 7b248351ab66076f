import Registrar.Proofs.Sql.Remaining
import Registrar.Proofs.Sql.Rereading

/-!
# Expressions in other surroundings

Every reading of an expression can be repeated in other surroundings, with as much fuel as four
times the tokens it takes and a little more.  The proof goes through all readers at once, by
induction on the fuel of the reading that is there.
-/

namespace Registrar.Sql

open Token Registrar.Sql.Expr

variable {P : Renumbering}

/-- What has been read, at least some number of tokens, can be read again before other tokens, with
fuel for each token and some extra. -/
def Carries (P : Renumbering) (least level extra : Nat) {α β : Type} (R : α → β → Prop)
    (ts : List Token) (read : Except Stop (α × List Token))
    (again : Nat → List Token → Except Stop (β × List Token)) : Prop :=
  ∀ a rest, read = .ok (a, rest) → ∃ used, least ≤ used.length ∧ ts = used ++ rest ∧
    Rereads P level (4 * used.length + extra) R a used rest again

/-- What has been read behind something can be read again behind the like of it. -/
def CarriesFor {γ : Type} (like : γ → Prop) (P : Renumbering) (least level extra : Nat)
    {α β : Type} (R : α → β → Prop) (ts : List Token) (read : Except Stop (α × List Token))
    (again : γ → Nat → List Token → Except Stop (β × List Token)) : Prop :=
  ∀ a rest, read = .ok (a, rest) → ∃ used, least ≤ used.length ∧ ts = used ++ rest ∧
    ∀ c, like c → Rereads P level (4 * used.length + extra) R a used rest (again c)

namespace Rereads

variable {level need : Nat} {α β : Type} {R : α → β → Prop} {a : α} {t : Token}
  {used rest : List Token} {next : Nat → List Token → Except Stop (β × List Token)}

/-- A keyword is passed. -/
theorem word {word : String} (isWord : t.isWord word = true)
    (rereads : Rereads P level need R a used rest next) :
    Rereads P level need R a (t :: used) rest fun fuel us =>
      expectWord word us >>= next fuel := by
  refine token (fun _ _ => rereads) fun u matching fuel us => ?_
  rw [expectWord, isWord_congr matching.lexeme, if_pos isWord]
  rfl

/-- A symbol is passed. -/
theorem symbol {symbol : String} (isSymbol : t.isSymbol symbol = true)
    (rereads : Rereads P level need R a used rest next) :
    Rereads P level need R a (t :: used) rest fun fuel us =>
      expectSymbol symbol us >>= next fuel := by
  refine token (fun _ _ => rereads) fun u matching fuel us => ?_
  rw [expectSymbol, isSymbol_congr matching.lexeme, if_pos isSymbol]
  rfl

/-- A name is passed. -/
theorem name {next : Token → Nat → List Token → Except Stop (β × List Token)}
    (isName : t.isName = true)
    (rereads : ∀ u, Matches P t u → Rereads P level need R a used rest (next u)) :
    Rereads P level need R a (t :: used) rest fun fuel us =>
      readName us >>= fun name => next name.1 fuel name.2 := by
  refine token rereads fun u matching fuel us => ?_
  rw [readName, isName_congr matching.lexeme, if_pos isName]
  rfl

end Rereads

/-- Columns of tokens that are written the same mirror each other. -/
theorem mirrors_columnOf {t u : Token} (matching : Matches P t u) :
    Mirrors P (columnOf t) (columnOf u) := by
  rw [columnOf, columnOf, kind_congr matching.lexeme, unquoted_congr matching.lexeme]
  exact .column _ _ _ _ _

/-- Operators stop before a token that is none of them, or too weak. -/
theorem readFollows_stop {t : Token} {level : Nat}
    (weak : ∀ follow, t.follow? = some follow → follow.strength < level) (fuel : Nat) (e : Expr)
    (rest : List Token) : readFollows (fuel + 1) level e (t :: rest) = .ok (e, t :: rest) := by
  unfold readFollows
  cases follows : t.follow? with
  | none => rfl
  | some follow => simp only [if_pos (weak follow follows)]

/-- The name of a collation. -/
def collationName : Collation → String
  | .binary => "BINARY"
  | .nocase => "NOCASE"
  | .rtrim => "RTRIM"

/-- The collation that is named is stated. -/
theorem readFollows_collate {t name : Token} {level : Nat} (follows : t.follow? = some .collate)
    (strong : ¬ Follow.collate.strength < level) (isName : name.isName = true)
    {collation : Collation} (known : collationName collation = Text.upperAscii name.unquoted)
    (fuel : Nat) (e : Expr) (rest : List Token) :
    readFollows (fuel + 1) level e (t :: name :: rest) =
      readFollows fuel level (.collate e collation) rest := by
  have read : readName (name :: rest) = .ok (name, rest) := by rw [readName, if_pos isName]
  conv => lhs; unfold readFollows
  simp only [follows, if_neg strong, read]
  cases collation <;> simp only [collationName] at known <;> simp [← known, bind, Except.bind]

/-- Where operators stop, they stop in other surroundings. -/
theorem rereads_stop {level : Nat} {ts : List Token} {e f : Expr} (mirrors : Mirrors P e f)
    (weak : ∀ t more, ts = t :: more → ∀ follow, t.follow? = some follow →
      follow.strength < level) :
    Rereads P level 1 (Mirrors P) e [] ts fun fuel us => readFollows fuel level f us := by
  intro used' matching
  cases matching
  refine ⟨f, mirrors, ?_⟩
  intro behind fuel meets fueled
  rw [List.nil_append]
  cases meets with
  | @same t u ts us same =>
    obtain ⟨fuel, rfl⟩ := Nat.exists_eq_add_of_le' fueled
    refine readFollows_stop ?_ fuel f us
    rw [follow?_congr same]
    exact weak t ts rfl
  | ends enough _ ends => exact readFollows_of_stops fueled (ends.stops enough)

/-- Reads what stands behind the word for identity and its denial, if there is one. -/
def readIdentical (fuel : Nat) (negated : Bool) (e : Expr) :
    List Token → Except Stop (Expr × List Token)
  | t :: rest =>
    if t.isWord "DISTINCT" then do
      let rest ← expectWord "FROM" rest
      let (b, rest) ← readExpr fuel 5 rest
      .ok (.binary (if negated then .is else .isNot) e b, rest)
    else if t.isWord "TRUE" then .ok (Expr.negatedIf negated (e.truthTest true), rest)
    else if t.isWord "FALSE" then .ok (Expr.negatedIf negated (e.truthTest false), rest)
    else do
      let (b, rest) ← readExpr fuel 5 (t :: rest)
      .ok (.binary (if negated then .isNot else .is) e b, rest)
  | [] => .error (.here [])

/-- An identity may be denied. -/
theorem readIdentity_succ (fuel : Nat) (e : Expr) (ts : List Token) :
    readIdentity (fuel + 1) e ts = readIdentical fuel (skipWord? "NOT" ts).isSome e
      ((skipWord? "NOT" ts).getD ts) := by
  rw [readIdentity]
  cases (skipWord? "NOT" ts).getD ts <;> rfl

/-- Goes on with the expressions behind one. -/
def readMore (fuel : Nat) (e : Expr) (ts : List Token) : Except Stop (List Expr × List Token) :=
  match skipSymbol? "," ts with
  | some rest => readExprs fuel rest >>= fun es => .ok (e :: es.1, es.2)
  | none => .ok ([e], ts)

/-- Expressions are the first one and those behind it. -/
theorem readExprs_succ (fuel : Nat) (ts : List Token) :
    readExprs (fuel + 1) ts = (readExpr fuel 0 ts >>= fun e => readMore fuel e.1 e.2) := by
  rw [readExprs]
  rfl

/-- Goes on with the branches of a choice behind one. -/
def readMoreBranches (fuel : Nat) (branch : Expr × Expr) (ts : List Token) :
    Except Stop (List (Expr × Expr) × List Token) :=
  match skipWord? "WHEN" ts with
  | some _ => readBranches fuel ts >>= fun branches => .ok (branch :: branches.1, branches.2)
  | none => .ok ([branch], ts)

/-- Branches are the first one and those behind it. -/
theorem readBranches_succ (fuel : Nat) (ts : List Token) :
    readBranches (fuel + 1) ts = (expectWord "WHEN" ts >>= fun ts => readExpr fuel 0 ts >>=
      fun test => expectWord "THEN" test.2 >>= fun ts => readExpr fuel 0 ts >>=
        fun e => readMoreBranches fuel (test.1, e.1) e.2) := by
  rw [readBranches]
  rfl

/-- Reads the arguments of a function behind the word that tells which of them count. -/
def readArguments (fuel : Nat) (t : Token) (distinct : Bool) (ts : List Token) :
    Except Stop (Expr × List Token) :=
  readExprs fuel ts >>= fun es => expectSymbol ")" es.2 >>= fun rest =>
    .ok (.call t.unquoted es.1 false distinct t.start, rest)

/-- A function may have no arguments, or only those that are distinct. -/
theorem readCall_succ (fuel : Nat) (t : Token) (ts : List Token) :
    readCall (fuel + 1) t ts =
      match skipSymbol? ")" ts with
      | some rest => .ok (.call t.unquoted [] false false t.start, rest)
      | none => readArguments fuel t (skipWord? "DISTINCT" ts).isSome
          (((skipWord? "DISTINCT" ts).or (skipWord? "ALL" ts)).getD ts) := by
  rw [readCall]
  rfl

/-- Reads what stands behind the opening parenthesis of a function. -/
def readInvoked (fuel : Nat) (t : Token) : List Token → Except Stop (Expr × List Token)
  | star :: close :: more =>
    if star.isSymbol "*" then
      if close.isSymbol ")" then .ok (.call t.unquoted [] true false t.start, more)
      else .error (.here (close :: more))
    else readCall fuel t (star :: close :: more)
  | ts => readCall fuel t ts

/-- Reads what stands behind the second of the names of a column. -/
def readThird (t second : Token) (ts : List Token) : Except Stop (Expr × List Token) :=
  match skipSymbol? "." ts with
  | none => .ok (.column (some t.unquoted) second.unquoted false t.start, ts)
  | some rest => readName rest >>= fun third =>
    .ok (.column (some second.unquoted) third.1.unquoted false t.start, third.2)

/-- Reads the points and names behind a name. -/
def readQualified (t : Token) (ts : List Token) : Except Stop (Expr × List Token) :=
  match skipSymbol? "." ts with
  | none => .ok (columnOf t, ts)
  | some rest => readName rest >>= fun second => readThird t second.1 second.2

/-- A name starts a function or a column. -/
theorem readNamed_succ (fuel : Nat) (t : Token) (ts : List Token) :
    readNamed (fuel + 1) t ts =
      match skipSymbol? "(" ts with
      | some rest => readInvoked fuel t rest
      | none => readQualified t ts := by
  rw [readNamed]
  cases skipSymbol? "(" ts with
  | none => rfl
  | some rest => rcases rest with _ | ⟨first, _ | ⟨second, rest⟩⟩ <;> rfl

/-- Reads what stands behind a minus sign: the least integer has no digits of its own. -/
def readNegative (fuel : Nat) : List Token → Except Stop (Expr × List Token)
  | d :: ts =>
    if d.kind == .integer && d.source.all Text.isDigit &&
        Number.digitsValue d.source == Nat.pow 2 63 then
      .ok (.literal (.integer Int64.minValue), ts)
    else readExpr fuel 12 (d :: ts) >>= fun e => .ok (.unary .minus e.1, e.2)
  | [] => .error (.here [])

/-- Reads what a symbol starts. -/
def readSymbolled (fuel : Nat) (t : Token) (ts : List Token) : Except Stop (Expr × List Token) :=
  if t.isSymbol "(" then
    readExpr fuel 0 ts >>= fun e => expectSymbol ")" e.2 >>= fun rest => .ok (e.1, rest)
  else if t.isSymbol "-" then readNegative fuel ts
  else if t.isSymbol "+" then readExpr fuel 12 ts >>= fun e => .ok (.unary .plus e.1, e.2)
  else if t.isSymbol "~" then readExpr fuel 12 ts >>= fun e => .ok (.unary .complement e.1, e.2)
  else .error (.here (t :: ts))

/-- A symbol starts a group or stands before what it applies to. -/
theorem readOperand_symbol {t : Token} (kind : t.kind = .symbol) (fuel : Nat) (ts : List Token) :
    readOperand (fuel + 1) (t :: ts) = readSymbolled fuel t ts := by
  unfold readOperand
  simp only [kind]
  cases ts <;> rfl

/-- Reads the conversion that a word starts. -/
def readCast (fuel : Nat) (ts : List Token) : Except Stop (Expr × List Token) :=
  expectSymbol "(" ts >>= fun ts => readExpr fuel 0 ts >>= fun e => expectWord "AS" e.2 >>=
    fun ts => readType ts >>= fun words => expectSymbol ")" words.2 >>=
      fun rest => .ok (.cast e.1 (Affinity.ofDeclared (typeText words.1)), rest)

/-- Reads what a word starts. -/
def readWorded (fuel : Nat) (t : Token) (ts : List Token) : Except Stop (Expr × List Token) :=
  if t.isWord "NOT" then readExpr fuel 3 ts >>= fun e => .ok (.unary .not e.1, e.2)
  else if t.isWord "NULL" then .ok (.literal .null, ts)
  else if t.isWord "CAST" && (skipSymbol? "(" ts).isSome then readCast fuel ts
  else if t.isWord "CASE" then readChoice fuel ts
  else if isReserved t.text then .error (.here (t :: ts))
  else readNamed fuel t ts

/-- A word starts an operand as its meaning says, or a name. -/
theorem readOperand_word {t : Token} (kind : t.kind = .word) (fuel : Nat) (ts : List Token) :
    readOperand (fuel + 1) (t :: ts) = readWorded fuel t ts := by
  unfold readOperand
  simp only [kind]
  rfl

/-- A function whose argument is no star is read as one with arguments. -/
theorem readInvoked_of_other {v : Token} (other : v.isSymbol "*" = false) (fuel : Nat) (t : Token)
    (ts : List Token) : readInvoked fuel t (v :: ts) = readCall fuel t (v :: ts) := by
  cases ts with
  | nil => rfl
  | cons u ts => simp [readInvoked, other]

/-- A star starts no expression. -/
theorem readExpr_star {star : Token} (isStar : star.isSymbol "*" = true) (fuel level : Nat)
    (ts : List Token) (result : Expr × List Token) :
    readExpr fuel level (star :: ts) ≠ .ok result := by
  intro done
  have kind : star.kind = .symbol := by
    simp only [Token.isSymbol, Bool.and_eq_true, beq_iff_eq] at isStar
    exact isStar.1
  cases fuel with
  | zero => simp [readExpr] at done
  | succ fuel =>
    rw [readExpr] at done
    obtain ⟨operand, read, -⟩ := bind_eq_ok done
    cases fuel with
    | zero => simp [readOperand] at read
    | succ fuel => simp [readOperand, kind, isSymbol_eq isStar] at read

/-- A star starts no arguments. -/
theorem readCall_star {star : Token} (isStar : star.isSymbol "*" = true) (fuel : Nat) (t : Token)
    (ts : List Token) (result : Expr × List Token) : readCall fuel t (star :: ts) ≠ .ok result := by
  intro done
  have kind : star.kind ≠ .word := by
    simp only [Token.isSymbol, Bool.and_eq_true, beq_iff_eq] at isStar
    rw [isStar.1]
    decide
  cases fuel with
  | zero => simp [readCall] at done
  | succ fuel =>
    rw [readCall_succ] at done
    simp only [skipSymbol?, isSymbol_eq isStar, skipWord?, isWord_of_kind kind] at done
    obtain ⟨arguments, read, -⟩ := bind_eq_ok done
    cases fuel with
    | zero => simp [readExprs] at read
    | succ fuel =>
      rw [readExprs_succ] at read
      obtain ⟨first, read, -⟩ := bind_eq_ok read
      exact readExpr_star isStar fuel 0 ts first read

/-- Reads what stands behind the opening parenthesis of a test of membership. -/
def readMembers (fuel : Nat) (negated : Bool) (e : Expr) (ts : List Token) :
    Except Stop (Expr × List Token) :=
  match skipSymbol? ")" ts with
  | some rest => .ok (.literal (.integer (if negated then 1 else 0)), rest)
  | none => readExprs fuel ts >>= fun items => expectSymbol ")" items.2 >>= fun rest =>
    .ok (Expr.negatedIf negated (.member e items.1), rest)

/-- Reads what stands behind a pattern. -/
def readEscape (fuel : Nat) (negated : Bool) (kind : PatternKind) (e shape : Expr)
    (ts : List Token) : Except Stop (Expr × List Token) :=
  match skipWord? "ESCAPE" ts with
  | some rest => readExpr fuel 5 rest >>= fun escape =>
    .ok (Expr.negatedIf negated (.pattern kind e shape (some escape.1)), escape.2)
  | none => .ok (Expr.negatedIf negated (.pattern kind e shape none), ts)

/-- Whether a token is a number without a sign. -/
def Token.isNumber (t : Token) : Bool :=
  t.kind == .integer || t.kind == .real

/-- Whether a token is a sign. -/
def Token.isSign (t : Token) : Bool :=
  t.isSymbol "+" || t.isSymbol "-"

/-- Tokens that are written the same are both numbers or neither is. -/
theorem isNumber_congr {t u : Token} (same : u.lexeme = t.lexeme) : u.isNumber = t.isNumber := by
  simp only [Token.isNumber, kind_congr same]

/-- Tokens that are written the same are both signs or neither is. -/
theorem isSign_congr {t u : Token} (same : u.lexeme = t.lexeme) : u.isSign = t.isSign := by
  simp only [Token.isSign, isSymbol_congr same]

/-- A number is read without a sign. -/
theorem readSigned_number {t : Token} (number : t.isNumber = true) (ts : List Token) :
    readSigned (t :: ts) = .ok (t, ts) := by
  have kind : t.kind ≠ .symbol := by
    intro same
    simp [Token.isNumber, same] at number
  have unsigned : ∀ symbol, t.isSymbol symbol = false := by
    intro symbol
    simp [Token.isSymbol, kind]
  rw [Token.isNumber] at number
  cases ts <;> simp only [readSigned, unsigned, number, Bool.or_self, Bool.false_eq_true, if_false,
    if_true]

/-- A number is read behind its sign. -/
theorem readSigned_sign {sign t : Token} (signed : sign.isSign = true) (number : t.isNumber = true)
    (ts : List Token) : readSigned (sign :: t :: ts) = .ok (t, ts) := by
  rw [Token.isSign] at signed
  rw [Token.isNumber] at number
  rw [readSigned, if_pos signed, if_pos number]

/-- A signed number is a number, with its sign before it if it has one. -/
theorem of_readSigned {ts rest : List Token} {t : Token} (done : readSigned ts = .ok (t, rest)) :
    ts = t :: rest ∧ t.isNumber = true ∨
      ∃ sign, ts = sign :: t :: rest ∧ sign.isSign = true ∧ t.isNumber = true := by
  unfold readSigned at done
  split at done
  · split at done
    · next signed =>
      split at done
      · next number =>
        cases done
        exact .inr ⟨_, rfl, signed, number⟩
      · cases done
    · split at done
      · next number =>
        cases done
        exact .inl ⟨rfl, number⟩
      · cases done
  · split at done
    · next number =>
      cases done
      exact .inl ⟨rfl, number⟩
    · split at done <;> cases done
  · cases done

/-- Reads the second bound of a type, if there is one, and the closing parenthesis. -/
def readSecondBound (ts : List Token) : Except Stop (Unit × List Token) :=
  match skipSymbol? "," ts with
  | some rest => readSigned rest >>= fun second => expectSymbol ")" second.2 >>= fun rest =>
    .ok ((), rest)
  | none => expectSymbol ")" ts >>= fun rest => .ok ((), rest)

/-- Reads the bounds of a type and the closing parenthesis behind them. -/
def readBounds (ts : List Token) : Except Stop (Unit × List Token) :=
  readSigned ts >>= fun first => readSecondBound first.2

/-- A type is its words, with bounds behind them if there are any. -/
theorem readType_eq (ts : List Token) :
    readType ts =
      match (typeWords ts).1, skipSymbol? "(" (typeWords ts).2 with
      | [], _ | _, none => .ok (typeWords ts)
      | _ :: _, some rest => readBounds rest >>= fun behind =>
        .ok (ts.take (ts.length - behind.2.length), behind.2) := by
  unfold readType
  rcases typeWords ts with ⟨words, rest⟩
  cases words with
  | nil => rfl
  | cons t words =>
    dsimp only
    cases skipSymbol? "(" rest with
    | none => rfl
    | some rest =>
      dsimp only [readBounds, readSecondBound]
      cases readSigned rest with
      | error stop => rfl
      | ok first =>
        simp only [bind, Except.bind, pure, Except.pure]
        cases skipSymbol? "," first.2 with
        | none => cases expectSymbol ")" first.2 <;> rfl
        | some rest =>
          dsimp only
          cases readSigned rest with
          | error stop => rfl
          | ok second =>
            dsimp only
            cases expectSymbol ")" second.2 <;> rfl

/-- What readings of expressions with some fuel carry elsewhere. -/
structure Carrying (P : Renumbering) (fuel : Nat) : Prop where
  expr : ∀ level ts, Carries P 1 level 3 (Mirrors P) ts (readExpr fuel level ts)
    fun fuel us => readExpr fuel level us
  follows : ∀ level e ts, CarriesFor (Mirrors P e) P 0 level 2 (Mirrors P) ts
    (readFollows fuel level e ts) fun f fuel us => readFollows fuel level f us
  identity : ∀ e ts, CarriesFor (Mirrors P e) P 1 3 4 (Mirrors P) ts (readIdentity fuel e ts)
    fun f fuel us => readIdentity fuel f us
  test : ∀ negated e ts, CarriesFor (Mirrors P e) P 1 3 1 (Mirrors P) ts
    (readTest fuel negated e ts) fun f fuel us => readTest fuel negated f us
  operand : ∀ ts, Carries P 1 3 2 (Mirrors P) ts (readOperand fuel ts) readOperand
  named : ∀ t ts, CarriesFor (Matches P t) P 0 3 1 (Mirrors P) ts (readNamed fuel t ts)
    fun u fuel us => readNamed fuel u us
  call : ∀ t ts, CarriesFor (Matches P t) P 1 3 1 (Mirrors P) ts (readCall fuel t ts)
    fun u fuel us => readCall fuel u us
  exprs : ∀ ts, Carries P 1 0 4 (List.Forall₂ (Mirrors P)) ts (readExprs fuel ts) readExprs
  choice : ∀ ts, Carries P 1 3 1 (Mirrors P) ts (readChoice fuel ts) readChoice
  branches : ∀ ts, Carries P 1 0 1 (List.Forall₂ (Branches (Mirrors P))) ts
    (readBranches fuel ts) readBranches

namespace Carrying

variable {fuel : Nat}

/-- An expression is an operand and the operators behind it. -/
theorem expr_succ (ih : Carrying P fuel) (level : Nat) (ts : List Token) :
    Carries P 1 level 3 (Mirrors P) ts (readExpr (fuel + 1) level ts)
      fun fuel us => readExpr fuel level us := by
  intro e rest done
  rw [readExpr] at done
  obtain ⟨⟨a, r⟩, operand, follows⟩ := bind_eq_ok done
  obtain ⟨first, takes, rfl, again⟩ := ih.operand ts a r operand
  obtain ⟨second, -, rfl, behind⟩ := ih.follows level a r e rest follows
  refine ⟨first ++ second, by simp; omega, by simp, ?_⟩
  have both := again.bind behind (.inr (.inr (Nat.le_refl 3))) (by simp)
  refine (both.succ fun fuel us _ => ?_).mono (by simp only [List.length_append]; omega)
    (.inl (Nat.le_refl level))
  rw [readExpr]

/-- What is read of the operators from a token on carries elsewhere. -/
def FollowsFrom (P : Renumbering) (fuel level : Nat) (e : Expr) (t : Token) (ts : List Token) : Prop :=
  CarriesFor (Mirrors P e) P 0 level 2 (Mirrors P) (t :: ts) (readFollows (fuel + 1) level e (t :: ts))
    fun f fuel us => readFollows fuel level f us

section Operators

variable {t : Token} {level : Nat}

/-- Tokens that are written the same are the same operator. -/
theorem follow?_of_matches {follow : Follow} (follows : t.follow? = some follow) {u : Token}
    (matching : Matches P t u) : u.follow? = some follow :=
  (follow?_congr matching.lexeme).trans follows

/-- An operator between two operands. -/
theorem follows_binary (ih : Carrying P fuel) {op : BinaryOp} {strength : Nat}
    (follows : t.follow? = some (.binary op strength))
    (strong : ¬ (Follow.binary op strength).strength < level) (e : Expr) (ts : List Token) :
    FollowsFrom P fuel level e t ts := by
  have le : level ≤ strength := Nat.not_lt.1 strong
  intro e' rest done
  unfold readFollows at done
  simp only [follows, if_neg strong] at done
  obtain ⟨⟨b, r⟩, operand, others⟩ := bind_eq_ok done
  obtain ⟨first, takes, rfl, inside⟩ := ih.expr (strength + 1) ts b r operand
  obtain ⟨second, -, rfl, behind⟩ := ih.follows level (.binary op e b) r e' rest others
  refine ⟨t :: (first ++ second), Nat.zero_le _, by simp, fun f mirrors => ?_⟩
  have both := inside.bind (fun b' same => behind (.binary op f b') (mirrors.binary op same))
    (.inr (.inl (Nat.le_succ_of_le le))) (by simp)
  refine (Rereads.step (fun _ _ => both) fun u matching fuel us => ?_).mono
    (by simp only [List.length_cons, List.length_append]; omega) (.inl (Nat.le_refl level))
  exact readFollows_binary (follow?_of_matches follows matching) le f us

/-- An operator behind its only operand. -/
theorem follows_postfix (ih : Carrying P fuel) {follow : Follow} (op : UnaryOp)
    (follows : t.follow? = some follow)
    (applies : ∀ {u : Token}, u.follow? = some follow → ∀ fuel e us,
      readFollows (fuel + 1) level e (u :: us) = readFollows fuel level (.unary op e) us)
    (e : Expr) (ts : List Token) : FollowsFrom P fuel level e t ts := by
  intro e' rest done
  rw [applies follows] at done
  obtain ⟨second, -, rfl, behind⟩ := ih.follows level (.unary op e) ts e' rest done
  refine ⟨t :: second, Nat.zero_le _, by simp, fun f mirrors => ?_⟩
  have inside := behind (.unary op f) (mirrors.unary op)
  refine (Rereads.step (fun _ _ => inside) fun u matching fuel us => ?_).mono
    (by simp only [List.length_cons]; omega) (.inl (Nat.le_refl level))
  exact applies (follow?_of_matches follows matching) fuel f us

/-- A collation behind what is collated. -/
theorem follows_collate (ih : Carrying P fuel) (follows : t.follow? = some .collate)
    (strong : ¬ Follow.collate.strength < level) (e : Expr) (ts : List Token) :
    FollowsFrom P fuel level e t ts := by
  intro e' rest done
  unfold readFollows at done
  simp only [follows, if_neg strong] at done
  obtain ⟨⟨name, r⟩, named, others⟩ := bind_eq_ok done
  obtain ⟨rfl, isName⟩ := of_readName named
  obtain ⟨collation, others, known⟩ :
      ∃ collation, readFollows fuel level (.collate e collation) r = .ok (e', rest) ∧
        collationName collation = Text.upperAscii name.unquoted := by
    dsimp only at others
    split at others
    · next isBinary => exact ⟨.binary, others, isBinary.symm⟩
    · next isNocase => exact ⟨.nocase, others, isNocase.symm⟩
    · next isTrimmed => exact ⟨.rtrim, others, isTrimmed.symm⟩
    · cases others
  obtain ⟨second, -, rfl, behind⟩ := ih.follows level _ r e' rest others
  refine ⟨t :: name :: second, Nat.zero_le _, by simp, fun f mirrors => ?_⟩
  have inside := behind (.collate f collation) (mirrors.collate collation)
  refine (Rereads.step (fun u matching => Rereads.token (fun _ _ => inside)
    fun v matching' fuel us => ?_) fun _ _ _ _ => rfl).mono
    (by simp only [List.length_cons]; omega) (.inl (Nat.le_refl level))
  refine readFollows_collate (follow?_of_matches follows matching) strong ?_ ?_ fuel f us
  · rw [isName_congr matching'.lexeme, isName]
  · rw [unquoted_congr matching'.lexeme, known]

/-- The word for identity behind its first operand. -/
theorem follows_is (ih : Carrying P fuel) (follows : t.follow? = some .is)
    (strong : ¬ Follow.is.strength < level) (e : Expr) (ts : List Token) :
    FollowsFrom P fuel level e t ts := by
  intro e' rest done
  unfold readFollows at done
  simp only [follows, if_neg strong] at done
  obtain ⟨⟨b, r⟩, identity, others⟩ := bind_eq_ok done
  obtain ⟨first, takes, rfl, inside⟩ := ih.identity e ts b r identity
  obtain ⟨second, -, rfl, behind⟩ := ih.follows level b r e' rest others
  refine ⟨t :: (first ++ second), Nat.zero_le _, by simp, fun f mirrors => ?_⟩
  have both := (inside f mirrors).bind behind (.inr (.inr (Nat.le_refl 3))) (by simp)
  refine (Rereads.step (fun _ _ => both) fun u matching fuel us => ?_).mono
    (by simp only [List.length_cons, List.length_append]; omega) (.inl (Nat.le_refl level))
  conv => lhs; unfold readFollows
  simp only [follow?_of_matches follows matching, if_neg strong]

/-- A denial behind an operand: of nothing, or of a test. -/
theorem follows_not (ih : Carrying P fuel) (follows : t.follow? = some .not)
    (strong : ¬ Follow.not.strength < level) (e : Expr) (ts : List Token) :
    FollowsFrom P fuel level e t ts := by
  intro e' rest done
  unfold readFollows at done
  simp only [follows, if_neg strong] at done
  cases ts with
  | nil => cases done
  | cons word ts =>
    by_cases isNull : word.isWord "NULL" = true
    · simp only [if_pos isNull] at done
      obtain ⟨second, -, rfl, behind⟩ := ih.follows level (.unary .notNull e) ts e' rest done
      refine ⟨t :: word :: second, Nat.zero_le _, by simp, fun f mirrors => ?_⟩
      have inside := behind (.unary .notNull f) (mirrors.unary .notNull)
      refine (Rereads.step (fun u matching => Rereads.token (fun _ _ => inside)
        fun v matching' fuel us => ?_) fun _ _ _ _ => rfl).mono
        (by simp only [List.length_cons]; omega) (.inl (Nat.le_refl level))
      conv => lhs; unfold readFollows
      simp only [follow?_of_matches follows matching, if_neg strong, isWord_congr matching'.lexeme,
        if_pos isNull]
    · simp only [if_neg isNull] at done
      obtain ⟨⟨b, r⟩, test, others⟩ := bind_eq_ok done
      obtain ⟨first, takes, same, inside⟩ := ih.test true e (word :: ts) b r test
      obtain ⟨second, -, rfl, behind⟩ := ih.follows level b r e' rest others
      cases first with
      | nil => exact absurd takes (by decide)
      | cons _ first =>
        obtain ⟨rfl, rfl⟩ := List.cons.inj same
        refine ⟨t :: (word :: first ++ second), Nat.zero_le _, by simp, fun f mirrors => ?_⟩
        have both := (inside f mirrors).bind behind (.inr (.inr (Nat.le_refl 3))) (by simp)
        refine (Rereads.step (fun u matching => Rereads.lookHead both
          fun v matching' fuel us => ?_) fun _ _ _ _ => rfl).mono
          (by simp only [List.length_cons, List.length_append]; omega) (.inl (Nat.le_refl level))
        conv => lhs; unfold readFollows
        simp only [follow?_of_matches follows matching, if_neg strong, isWord_congr matching'.lexeme,
          if_neg isNull]

/-- A test behind an operand, which reads its own word. -/
theorem follows_test (ih : Carrying P fuel) {follow : Follow} (follows : t.follow? = some follow)
    (tests : ∀ {u : Token}, u.follow? = some follow → ∀ fuel e us,
      readFollows (fuel + 1) level e (u :: us) =
        (readTest fuel false e (u :: us) >>= fun b => readFollows fuel level b.1 b.2))
    (e : Expr) (ts : List Token) : FollowsFrom P fuel level e t ts := by
  intro e' rest done
  rw [tests follows] at done
  obtain ⟨⟨b, r⟩, test, others⟩ := bind_eq_ok done
  obtain ⟨first, takes, same, inside⟩ := ih.test false e (t :: ts) b r test
  obtain ⟨second, -, rfl, behind⟩ := ih.follows level b r e' rest others
  cases first with
  | nil => exact absurd takes (by decide)
  | cons _ first =>
    obtain ⟨rfl, rfl⟩ := List.cons.inj same
    refine ⟨t :: first ++ second, Nat.zero_le _, by simp, fun f mirrors => ?_⟩
    have both := (inside f mirrors).bind behind (.inr (.inr (Nat.le_refl 3))) (by simp)
    refine (Rereads.stepHead both fun u matching fuel us => ?_).mono
      (by simp only [List.length_cons, List.length_append]; omega) (.inl (Nat.le_refl level))
    exact tests (follow?_of_matches follows matching) fuel f us

end Operators

/-- Operators are read one after another, up to one that is too weak. -/
theorem follows_succ (ih : Carrying P fuel) (level : Nat) (e : Expr) (ts : List Token) :
    CarriesFor (Mirrors P e) P 0 level 2 (Mirrors P) ts (readFollows (fuel + 1) level e ts)
      fun f fuel us => readFollows fuel level f us := by
  cases ts with
  | nil =>
    intro e' rest done
    rw [readFollows] at done
    cases done
    refine ⟨[], Nat.le_refl 0, rfl, fun f mirrors => ?_⟩
    refine (rereads_stop mirrors ?_).mono (by decide) (.inl (Nat.le_refl level))
    rintro _ _ ⟨⟩
  | cons t ts =>
    by_cases weak : ∀ follow, t.follow? = some follow → follow.strength < level
    · intro e' rest done
      rw [readFollows_stop weak] at done
      cases done
      refine ⟨[], Nat.le_refl 0, rfl, fun f mirrors => ?_⟩
      refine (rereads_stop mirrors ?_).mono (by decide) (.inl (Nat.le_refl level))
      rintro _ _ ⟨⟩
      exact weak
    · obtain ⟨follow, follows, strong⟩ : ∃ follow, t.follow? = some follow ∧
          ¬ follow.strength < level := by
        simpa using weak
      cases follow with
      | binary op strength => exact ih.follows_binary follows strong e ts
      | isNull =>
        refine ih.follows_postfix .isNull follows (fun again fuel f us => ?_) e ts
        conv => lhs; unfold readFollows
        simp only [again, if_neg strong]
      | notNull =>
        refine ih.follows_postfix .notNull follows (fun again fuel f us => ?_) e ts
        conv => lhs; unfold readFollows
        simp only [again, if_neg strong]
      | collate => exact ih.follows_collate follows strong e ts
      | is => exact ih.follows_is follows strong e ts
      | not => exact ih.follows_not follows strong e ts
      | _ =>
        refine ih.follows_test follows (fun again fuel f us => ?_) e ts
        conv => lhs; unfold readFollows
        simp only [again, if_neg strong]

/-- What is read behind the word for identity, its denial passed. -/
theorem identical (ih : Carrying P fuel) (negated : Bool) (e : Expr) (ts : List Token) :
    CarriesFor (Mirrors P e) P 1 3 3 (Mirrors P) ts (readIdentical fuel negated e ts)
      fun f fuel us => readIdentical fuel negated f us := by
  intro e' rest done
  cases ts with
  | nil => cases done
  | cons t ts =>
    rw [readIdentical] at done
    by_cases isDistinct : t.isWord "DISTINCT" = true
    · rw [if_pos isDistinct] at done
      obtain ⟨_, from', others⟩ := bind_eq_ok done
      obtain ⟨w, rfl, isFrom⟩ := of_expectWord from'
      obtain ⟨⟨b, r⟩, operand, result⟩ := bind_eq_ok others
      obtain ⟨used, takes, rfl, inside⟩ := ih.expr 5 _ b r operand
      cases result
      refine ⟨t :: w :: used, by simp, by simp, fun f mirrors => ?_⟩
      have whole := inside.map fun b' same =>
        mirrors.binary (if negated then .is else .isNot) same
      refine (Rereads.token (fun _ _ => whole.word isFrom) fun u matching fuel us => ?_).mono
        (by simp only [List.length_cons]; omega) (.inl (by decide))
      simp only [readIdentical, isWord_congr matching.lexeme, if_pos isDistinct]
    · rw [if_neg isDistinct] at done
      have again : ∀ u, Matches P t u → ∀ f fuel us, readIdentical fuel negated f (u :: us) =
          if t.isWord "TRUE" then .ok (Expr.negatedIf negated (f.truthTest true), us)
          else if t.isWord "FALSE" then .ok (Expr.negatedIf negated (f.truthTest false), us)
          else readExpr fuel 5 (u :: us) >>= fun b =>
            .ok (.binary (if negated then .isNot else .is) f b.1, b.2) := by
        intro u matching f fuel us
        simp only [readIdentical, isWord_congr matching.lexeme, if_neg isDistinct]
      by_cases isTrue : t.isWord "TRUE" = true
      · rw [if_pos isTrue] at done
        cases done
        refine ⟨[t], by simp, rfl, fun f mirrors => ?_⟩
        have result := (mirrors.truthTest true).negatedIf negated
        refine Rereads.token (fun _ _ => Rereads.done result _) fun u matching fuel us => ?_
        exact (again u matching f fuel us).trans (if_pos isTrue)
      · rw [if_neg isTrue] at done
        by_cases isFalse : t.isWord "FALSE" = true
        · rw [if_pos isFalse] at done
          cases done
          refine ⟨[t], by simp, rfl, fun f mirrors => ?_⟩
          have result := (mirrors.truthTest false).negatedIf negated
          refine Rereads.token (fun _ _ => Rereads.done result _) fun u matching fuel us => ?_
          exact (again u matching f fuel us).trans ((if_neg isTrue).trans (if_pos isFalse))
        · rw [if_neg isFalse] at done
          obtain ⟨⟨b, r⟩, operand, result⟩ := bind_eq_ok done
          obtain ⟨used, takes, same, inside⟩ := ih.expr 5 _ b r operand
          cases result
          refine ⟨used, takes, same, fun f mirrors => ?_⟩
          cases used with
          | nil => exact absurd takes (by decide)
          | cons _ used =>
            obtain ⟨rfl, rfl⟩ := List.cons.inj same
            have whole := inside.map fun b' same =>
              mirrors.binary (if negated then .isNot else .is) same
            refine (Rereads.lookHead whole fun u matching fuel us => ?_).mono (Nat.le_refl _)
              (.inl (by decide))
            exact (again u matching f fuel us).trans ((if_neg isTrue).trans (if_neg isFalse))

/-- What is read behind the word for identity. -/
theorem identity_succ (ih : Carrying P fuel) (e : Expr) (ts : List Token) :
    CarriesFor (Mirrors P e) P 1 3 4 (Mirrors P) ts (readIdentity (fuel + 1) e ts)
      fun f fuel us => readIdentity fuel f us := by
  intro e' rest done
  rw [readIdentity_succ] at done
  cases found : skipWord? "NOT" ts with
  | none =>
    rw [found] at done
    obtain ⟨used, takes, rfl, inside⟩ := ih.identical false e ts e' rest done
    refine ⟨used, takes, rfl, fun f mirrors => ?_⟩
    cases used with
    | nil => exact absurd takes (by decide)
    | cons t used =>
      refine (Rereads.stepHead (inside f mirrors) fun u matching fuel us => ?_).mono (by omega)
        (.inl (Nat.le_refl 3))
      show readIdentity (fuel + 1) f (u :: us) = readIdentical fuel false f (u :: us)
      rw [readIdentity_succ, skipWord?_of_head matching.lexeme found]
      rfl
  | some more =>
    rw [found] at done
    obtain ⟨n, rfl, isNot⟩ := of_skipWord? found
    obtain ⟨used, takes, rfl, inside⟩ := ih.identical true e more e' rest done
    refine ⟨n :: used, by simp, by simp, fun f mirrors => ?_⟩
    refine (Rereads.step (fun _ _ => inside f mirrors) fun u matching fuel us => ?_).mono
      (by simp only [List.length_cons]; omega) (.inl (Nat.le_refl 3))
    show readIdentity (fuel + 1) f (u :: us) = readIdentical fuel true f us
    rw [readIdentity_succ, skipWord?_of_isWord matching.lexeme isNot]
    rfl

/-- What stands behind an expression among several. -/
theorem more (ih : Carrying P fuel) (e : Expr) (ts : List Token) :
    CarriesFor (Mirrors P e) P 0 0 0 (List.Forall₂ (Mirrors P)) ts (readMore fuel e ts)
      fun f fuel us => readMore fuel f us := by
  intro es rest done
  rw [readMore] at done
  cases found : skipSymbol? "," ts with
  | some behind =>
    rw [found] at done
    obtain ⟨comma, rfl, isComma⟩ := of_skipSymbol? found
    obtain ⟨⟨fs, r⟩, others, result⟩ := bind_eq_ok done
    obtain ⟨used, takes, rfl, again⟩ := ih.exprs behind fs r others
    cases result
    refine ⟨comma :: used, Nat.zero_le _, rfl, fun f mirrors => ?_⟩
    have whole := again.map fun fs' sames => List.Forall₂.cons mirrors sames
    refine (Rereads.token (fun _ _ => whole) fun u matching fuel us => ?_).mono
      (by simp only [List.length_cons]; omega) (.inl (Nat.le_refl 0))
    simp only [readMore, skipSymbol?_of_isSymbol matching.lexeme isComma]
  | none =>
    rw [found] at done
    cases done
    refine ⟨[], Nat.zero_le _, rfl, fun f mirrors => ?_⟩
    refine (Rereads.done (List.Forall₂.cons mirrors .nil) _).look fun fuel us meets => ?_
    simp only [readMore, meets.skipSymbol? (by decide) found]

/-- Expressions are read one after another. -/
theorem exprs_succ (ih : Carrying P fuel) (ts : List Token) :
    Carries P 1 0 4 (List.Forall₂ (Mirrors P)) ts (readExprs (fuel + 1) ts) readExprs := by
  intro es rest done
  rw [readExprs_succ] at done
  obtain ⟨⟨e, r⟩, operand, others⟩ := bind_eq_ok done
  obtain ⟨first, takes, rfl, inside⟩ := ih.expr 0 ts e r operand
  obtain ⟨second, -, rfl, behind⟩ := ih.more e r es rest others
  refine ⟨first ++ second, by simp only [List.length_append]; omega, by simp, ?_⟩
  have both := inside.bind behind (.inr (.inl (Nat.le_refl 0))) (by simp)
  exact (both.succ fun fuel us _ => readExprs_succ fuel us).mono
    (by simp only [List.length_append]; omega) (.inl (Nat.le_refl 0))

/-- What stands behind a branch of a choice. -/
theorem moreBranches (ih : Carrying P fuel) (branch : Expr × Expr) (ts : List Token) :
    CarriesFor (Branches (Mirrors P) branch) P 0 0 1 (List.Forall₂ (Branches (Mirrors P))) ts
      (readMoreBranches fuel branch ts) fun other fuel us => readMoreBranches fuel other us := by
  intro bs rest done
  rw [readMoreBranches] at done
  cases found : skipWord? "WHEN" ts with
  | some behind =>
    rw [found] at done
    obtain ⟨w, rfl, isWhen⟩ := of_skipWord? found
    obtain ⟨⟨cs, r⟩, others, result⟩ := bind_eq_ok done
    obtain ⟨used, takes, same, again⟩ := ih.branches _ cs r others
    cases result
    refine ⟨used, Nat.zero_le _, same, fun other mirrors => ?_⟩
    cases used with
    | nil => exact absurd takes (by decide)
    | cons _ used =>
      obtain ⟨rfl, rfl⟩ := List.cons.inj same
      have whole := again.map fun cs' sames => List.Forall₂.cons mirrors sames
      refine whole.lookHead fun u matching fuel us => ?_
      simp only [readMoreBranches, skipWord?_of_isWord matching.lexeme isWhen]
  | none =>
    rw [found] at done
    cases done
    refine ⟨[], Nat.zero_le _, rfl, fun other mirrors => ?_⟩
    refine (Rereads.done (List.Forall₂.cons mirrors .nil) _).look fun fuel us meets => ?_
    simp only [readMoreBranches, meets.skipWord? (by decide) found]

/-- Branches of a choice are read one after another. -/
theorem branches_succ (ih : Carrying P fuel) (ts : List Token) :
    Carries P 1 0 1 (List.Forall₂ (Branches (Mirrors P))) ts (readBranches (fuel + 1) ts)
      readBranches := by
  intro bs rest done
  rw [readBranches_succ] at done
  obtain ⟨_, when', afterWhen⟩ := bind_eq_ok done
  obtain ⟨w, rfl, isWhen⟩ := of_expectWord when'
  obtain ⟨⟨test, r⟩, isTest, afterTest⟩ := bind_eq_ok afterWhen
  obtain ⟨first, takes, rfl, inside⟩ := ih.expr 0 _ test r isTest
  obtain ⟨_, then', afterThen⟩ := bind_eq_ok afterTest
  obtain ⟨h, rfl, isThen⟩ := of_expectWord then'
  obtain ⟨⟨e, r⟩, isResult, others⟩ := bind_eq_ok afterThen
  obtain ⟨second, takes', rfl, inside'⟩ := ih.expr 0 _ e r isResult
  obtain ⟨third, -, rfl, behind⟩ := ih.moreBranches (test, e) r bs rest others
  refine ⟨w :: (first ++ h :: (second ++ third)), by simp, by simp, ?_⟩
  have whole := (inside.bind (fun test' same => (inside'.bind (fun e' same' =>
    behind (test', e') ⟨same, same'⟩) (.inr (.inl (Nat.le_refl 0))) (by simp)).word isThen)
    (.inl (by simp)) (by simp)).word isWhen
  refine (whole.succ fun fuel us _ => readBranches_succ fuel us).mono
    (by simp only [List.length_cons, List.length_append]; omega) (.inl (Nat.le_refl 0))

/-- A choice is read from its branches on. -/
theorem ending (ih : Carrying P fuel) {subject : Option Expr} {branches : List (Expr × Expr)}
    {ts rest : List Token} {e : Expr} (done : readEnding fuel subject branches ts = .ok (e, rest)) :
    ∃ used, 1 ≤ used.length ∧ ts = used ++ rest ∧ ∀ other others,
      Option.Rel (Mirrors P) subject other →
      List.Forall₂ (Branches (Mirrors P)) branches others →
      Rereads P 3 (4 * used.length) (Mirrors P) e used rest fun fuel us =>
        readEnding fuel other others us := by
  rw [readEnding] at done
  cases found : skipWord? "ELSE" ts with
  | some behind =>
    rw [found] at done
    obtain ⟨w, rfl, isElse⟩ := of_skipWord? found
    obtain ⟨⟨e', r⟩, isOther, closes⟩ := bind_eq_ok done
    obtain ⟨used, takes, rfl, inside⟩ := ih.expr 0 _ e' r isOther
    obtain ⟨_, end', result⟩ := bind_eq_ok closes
    obtain ⟨c, rfl, isEnd⟩ := of_expectWord end'
    cases result
    refine ⟨w :: (used ++ [c]), by simp, by simp, fun other others same sames => ?_⟩
    have last : ∀ e'', Mirrors P e' e'' → Rereads P 3 0 (Mirrors P)
        (.choice subject branches (some e')) [c] rest fun _ us => expectWord "END" us >>= fun us =>
          .ok (.choice other others (some e''), us) := fun e'' like =>
      (Rereads.done (Mirrors.choice same sames (.some like)) 0).word isEnd
    have whole := inside.bind last (.inl (by simp)) (by simp)
    refine (Rereads.token (fun _ _ => whole) fun u matching fuel us => ?_).mono
      (by simp only [List.length_cons, List.length_append]; omega) (.inl (Nat.le_refl 3))
    simp only [readEnding, skipWord?_of_isWord matching.lexeme isElse]
  | none =>
    rw [found] at done
    obtain ⟨_, end', result⟩ := bind_eq_ok done
    obtain ⟨c, rfl, isEnd⟩ := of_expectWord end'
    cases result
    refine ⟨[c], by simp, rfl, fun other others same sames => ?_⟩
    refine ((Rereads.done (Mirrors.choice same sames .none) _).word isEnd).look
      fun fuel us meets => ?_
    simp only [readEnding, meets.skipWord? (by decide) found]

/-- A choice is read behind its subject. -/
theorem arms (ih : Carrying P fuel) (subject : Option Expr) (ts : List Token) :
    CarriesFor (Option.Rel (Mirrors P) subject) P 1 3 0 (Mirrors P) ts (readArms fuel subject ts)
      fun other fuel us => readArms fuel other us := by
  intro e rest done
  rw [readArms] at done
  obtain ⟨⟨bs, r⟩, branches, others⟩ := bind_eq_ok done
  obtain ⟨first, takes, rfl, inside⟩ := ih.branches ts bs r branches
  obtain ⟨second, takes', rfl, behind⟩ := ih.ending others
  refine ⟨first ++ second, by simp only [List.length_append]; omega, by simp, fun other same => ?_⟩
  have present : second ≠ [] := List.ne_nil_of_length_pos takes'
  exact (inside.bind (fun cs sames => behind other cs same sames) (.inl present)
    (by simp)).mono
    (by simp only [List.length_append]; omega) (.inl (Nat.le_refl 3))

/-- A choice is read to its end. -/
theorem choice_succ (ih : Carrying P fuel) (ts : List Token) :
    Carries P 1 3 1 (Mirrors P) ts (readChoice (fuel + 1) ts) readChoice := by
  intro e rest done
  rw [readChoice_succ] at done
  cases found : skipWord? "WHEN" ts with
  | some behind =>
    rw [found] at done
    obtain ⟨w, rfl, isWhen⟩ := of_skipWord? found
    obtain ⟨used, takes, same, again⟩ := ih.arms none _ e rest done
    refine ⟨used, takes, same, ?_⟩
    cases used with
    | nil => exact absurd takes (by decide)
    | cons _ used =>
      obtain ⟨rfl, rfl⟩ := List.cons.inj same
      refine (again none .none).stepHead fun u matching fuel us => ?_
      simp only [readChoice_succ, skipWord?_of_isWord matching.lexeme isWhen]
  | none =>
    rw [found] at done
    obtain ⟨⟨s, r⟩, isSubject, others⟩ := bind_eq_ok done
    obtain ⟨first, takes, rfl, inside⟩ := ih.expr 0 ts s r isSubject
    obtain ⟨second, takes', rfl, behind⟩ := ih.arms (some s) r e rest others
    refine ⟨first ++ second, by simp only [List.length_append]; omega, by simp, ?_⟩
    have present : second ≠ [] := List.ne_nil_of_length_pos takes'
    have both := inside.bind (fun s' same => behind (some s') (.some same)) (.inl present)
      (by simp)
    cases first with
    | nil => exact absurd takes (by decide)
    | cons t first =>
      refine (Rereads.stepHead both fun u matching fuel us => ?_).mono
        (by simp only [List.length_cons, List.length_append]; omega) (.inl (Nat.le_refl 3))
      simp only [readChoice_succ, skipWord?_of_head matching.lexeme found]

/-- The arguments of a function are read to the closing parenthesis. -/
theorem arguments (ih : Carrying P fuel) (t : Token) (distinct : Bool) (ts : List Token) :
    CarriesFor (Matches P t) P 1 3 0 (Mirrors P) ts (readArguments fuel t distinct ts)
      fun u fuel us => readArguments fuel u distinct us := by
  intro e rest done
  obtain ⟨⟨es, r⟩, expressions, closes⟩ := bind_eq_ok done
  obtain ⟨used, takes, rfl, inside⟩ := ih.exprs ts es r expressions
  obtain ⟨_, closing, result⟩ := bind_eq_ok closes
  obtain ⟨c, rfl, isClosing⟩ := of_expectSymbol closing
  cases result
  refine ⟨used ++ [c], by simp, by simp, fun u matching => ?_⟩
  have last : ∀ fs, List.Forall₂ (Mirrors P) es fs → Rereads P 3 0 (Mirrors P)
      (.call t.unquoted es false distinct t.start) [c] rest fun _ us => expectSymbol ")" us >>=
        fun us => .ok (.call u.unquoted fs false distinct u.start, us) := by
    intro fs same
    rw [unquoted_congr matching.lexeme]
    exact (Rereads.done (Mirrors.call same _ _ _ _ _) 0).symbol isClosing
  exact (inside.bind last (.inl (by simp)) (by simp)).mono
    (by simp only [List.length_append, List.length_cons, List.length_nil]; omega)
    (.inl (Nat.le_refl 3))

/-- A function is read behind its opening parenthesis. -/
theorem call_succ (ih : Carrying P fuel) (t : Token) (ts : List Token) :
    CarriesFor (Matches P t) P 1 3 1 (Mirrors P) ts (readCall (fuel + 1) t ts)
      fun u fuel us => readCall fuel u us := by
  intro e rest done
  rw [readCall_succ] at done
  cases closes : skipSymbol? ")" ts with
  | some behind =>
    rw [closes] at done
    obtain ⟨c, rfl, isClosing⟩ := of_skipSymbol? closes
    cases done
    refine ⟨[c], by simp, rfl, fun u matching => ?_⟩
    have result : Mirrors P (.call t.unquoted [] false false t.start)
        (.call u.unquoted [] false false u.start) := by
      rw [unquoted_congr matching.lexeme]
      exact .call .nil _ _ _ _ _
    refine (Rereads.step (fun _ _ => Rereads.done result 0) fun v matching' fuel us => ?_).mono
      (by simp) (.inl (Nat.le_refl 3))
    show readCall (fuel + 1) u (v :: us) = _
    simp only [readCall_succ, skipSymbol?_of_isSymbol matching'.lexeme isClosing]
  | none =>
    rw [closes] at done
    cases isDistinct : skipWord? "DISTINCT" ts with
    | some behind =>
      rw [isDistinct] at done
      obtain ⟨d, rfl, isWord⟩ := of_skipWord? isDistinct
      obtain ⟨used, takes, rfl, inside⟩ := ih.arguments t true behind e rest done
      refine ⟨d :: used, by simp, by simp, fun u matching => ?_⟩
      refine (Rereads.step (fun _ _ => inside u matching) fun v matching' fuel us => ?_).mono
        (by simp only [List.length_cons]; omega) (.inl (Nat.le_refl 3))
      show readCall (fuel + 1) u (v :: us) = readArguments fuel u true us
      rw [readCall_succ, skipSymbol?_of_head matching'.lexeme closes,
        skipWord?_of_isWord matching'.lexeme isWord]
      rfl
    | none =>
      rw [isDistinct] at done
      cases isAll : skipWord? "ALL" ts with
      | some behind =>
        rw [isAll] at done
        obtain ⟨d, rfl, isWord⟩ := of_skipWord? isAll
        obtain ⟨used, takes, rfl, inside⟩ := ih.arguments t false behind e rest done
        refine ⟨d :: used, by simp, by simp, fun u matching => ?_⟩
        refine (Rereads.step (fun _ _ => inside u matching) fun v matching' fuel us => ?_).mono
          (by simp only [List.length_cons]; omega) (.inl (Nat.le_refl 3))
        show readCall (fuel + 1) u (v :: us) = readArguments fuel u false us
        rw [readCall_succ, skipSymbol?_of_head matching'.lexeme closes,
          skipWord?_of_head matching'.lexeme isDistinct,
          skipWord?_of_isWord matching'.lexeme isWord]
        rfl
      | none =>
        rw [isAll] at done
        obtain ⟨used, takes, same, inside⟩ := ih.arguments t false ts e rest done
        refine ⟨used, takes, same, fun u matching => ?_⟩
        cases used with
        | nil => exact absurd takes (by decide)
        | cons d used =>
          subst same
          refine (inside u matching).stepHead fun v matching' fuel us => ?_
          show readCall (fuel + 1) u (v :: us) = readArguments fuel u false (v :: us)
          rw [readCall_succ, skipSymbol?_of_head matching'.lexeme closes,
            skipWord?_of_head matching'.lexeme isDistinct,
            skipWord?_of_head matching'.lexeme isAll]
          rfl

/-- A function is read behind its name. -/
theorem invoked (ih : Carrying P fuel) (t : Token) (ts : List Token) :
    CarriesFor (Matches P t) P 1 3 1 (Mirrors P) ts (readInvoked fuel t ts)
      fun u fuel us => readInvoked fuel u us := by
  intro e rest done
  have ordinary : readCall fuel t ts = .ok (e, rest) → ∃ used, 1 ≤ used.length ∧
      ts = used ++ rest ∧ ∀ u, Matches P t u →
        Rereads P 3 (4 * used.length + 1) (Mirrors P) e used rest fun fuel us =>
          readInvoked fuel u us := by
    intro called
    obtain ⟨used, takes, same, inside⟩ := ih.call t ts e rest called
    refine ⟨used, takes, same, fun u matching => ?_⟩
    cases used with
    | nil => exact absurd takes (by decide)
    | cons s used =>
      subst same
      have other : s.isSymbol "*" = false := by
        rw [← Bool.not_eq_true]
        exact fun isStar => readCall_star isStar fuel t _ _ called
      refine (inside u matching).lookHead fun v matching' fuel us => ?_
      exact readInvoked_of_other ((isSymbol_congr matching'.lexeme "*").trans other) fuel u us
  unfold readInvoked at done
  split at done
  · next star close more =>
    by_cases isStar : star.isSymbol "*" = true
    · by_cases closes : close.isSymbol ")" = true
      · rw [if_pos isStar, if_pos closes] at done
        cases done
        refine ⟨[star, close], by simp, rfl, fun u matching => ?_⟩
        have result : Mirrors P (.call t.unquoted [] true false t.start)
            (.call u.unquoted [] true false u.start) := by
          rw [unquoted_congr matching.lexeme]
          exact .call .nil _ _ _ _ _
        refine Rereads.token (fun v matchingStar => Rereads.token
          (fun w _ => Rereads.done result _) fun w matchingClose fuel us => ?_)
          fun _ _ _ _ => rfl
        show readInvoked fuel u (v :: w :: us) = _
        rw [readInvoked, isSymbol_congr matchingStar.lexeme, if_pos isStar,
          isSymbol_congr matchingClose.lexeme, if_pos closes]
      · rw [if_pos isStar, if_neg closes] at done
        cases done
    · rw [if_neg isStar] at done
      exact ordinary done
  · exact ordinary done

/-- A column is read behind its second name. -/
theorem carries_readThird (t second : Token) (ts : List Token) :
    CarriesFor (fun others : Token × Token => Matches P t others.1 ∧ Matches P second others.2) P 0 3 0 (Mirrors P)
      ts (readThird t second ts) fun others _ us => readThird others.1 others.2 us := by
  intro e rest done
  rw [readThird] at done
  cases point : skipSymbol? "." ts with
  | none =>
    rw [point] at done
    cases done
    refine ⟨[], Nat.le_refl 0, rfl, fun others matching => ?_⟩
    have result : Mirrors P (.column (some t.unquoted) second.unquoted false t.start)
        (.column (some others.1.unquoted) others.2.unquoted false others.1.start) := by
      rw [unquoted_congr matching.1.lexeme, unquoted_congr matching.2.lexeme]
      exact .column _ _ _ _ _
    refine (Rereads.done result _).look fun fuel us meets => ?_
    simp only [readThird, meets.skipSymbol? (by decide) point]
  | some behind =>
    rw [point] at done
    obtain ⟨d, rfl, isPoint⟩ := of_skipSymbol? point
    obtain ⟨⟨third, r⟩, named, result⟩ := bind_eq_ok done
    obtain ⟨rfl, isName⟩ := of_readName named
    cases result
    refine ⟨[d, third], Nat.zero_le _, rfl, fun others matching => ?_⟩
    have result : ∀ w, Matches P third w →
        Mirrors P (.column (some second.unquoted) third.unquoted false t.start)
          (.column (some others.2.unquoted) w.unquoted false others.1.start) := by
      intro w matching'
      rw [unquoted_congr matching'.lexeme, unquoted_congr matching.2.lexeme]
      exact .column _ _ _ _ _
    have last : Rereads P 3 (4 * [d, third].length) (Mirrors P)
        (.column (some second.unquoted) third.unquoted false t.start) [third] r fun _ us =>
          readName us >>= fun third =>
            .ok (.column (some others.2.unquoted) third.1.unquoted false others.1.start, third.2) :=
      Rereads.name isName fun w matching' => Rereads.done (result w matching') _
    refine Rereads.token (fun _ _ => last) fun v matching' fuel us => ?_
    simp only [readThird, skipSymbol?_of_isSymbol matching'.lexeme isPoint]

/-- A column is read behind its first name. -/
theorem carries_readQualified (t : Token) (ts : List Token) :
    CarriesFor (Matches P t) P 0 3 0 (Mirrors P) ts (readQualified t ts)
      fun u _ us => readQualified u us := by
  intro e rest done
  rw [readQualified] at done
  cases point : skipSymbol? "." ts with
  | none =>
    rw [point] at done
    cases done
    refine ⟨[], Nat.le_refl 0, rfl, fun u matching => ?_⟩
    refine (Rereads.done (mirrors_columnOf matching) _).look fun fuel us meets => ?_
    simp only [readQualified, meets.skipSymbol? (by decide) point]
  | some behind =>
    rw [point] at done
    obtain ⟨d, rfl, isPoint⟩ := of_skipSymbol? point
    obtain ⟨⟨second, r⟩, named, others⟩ := bind_eq_ok done
    obtain ⟨rfl, isName⟩ := of_readName named
    obtain ⟨used, -, rfl, inside⟩ := carries_readThird t second r e rest others
    refine ⟨d :: second :: used, Nat.zero_le _, rfl, fun u matching => ?_⟩
    have last := Rereads.name isName fun w matching' => inside (u, w) ⟨matching, matching'⟩
    refine (Rereads.token (fun _ _ => last) fun v matching' fuel us => ?_).mono
      (by simp only [List.length_cons]; omega) (.inl (Nat.le_refl 3))
    simp only [readQualified, skipSymbol?_of_isSymbol matching'.lexeme isPoint]

/-- A function or a column is read behind its first name. -/
theorem named_succ (ih : Carrying P fuel) (t : Token) (ts : List Token) :
    CarriesFor (Matches P t) P 0 3 1 (Mirrors P) ts (readNamed (fuel + 1) t ts)
      fun u fuel us => readNamed fuel u us := by
  intro e rest done
  rw [readNamed_succ] at done
  cases opens : skipSymbol? "(" ts with
  | some behind =>
    rw [opens] at done
    obtain ⟨o, rfl, isOpening⟩ := of_skipSymbol? opens
    obtain ⟨used, -, rfl, inside⟩ := ih.invoked t behind e rest done
    refine ⟨o :: used, Nat.zero_le _, rfl, fun u matching => ?_⟩
    refine (Rereads.step (fun _ _ => inside u matching) fun v matching' fuel us => ?_).mono
      (by simp only [List.length_cons]; omega) (.inl (Nat.le_refl 3))
    simp only [readNamed_succ, skipSymbol?_of_isSymbol matching'.lexeme isOpening]
  | none =>
    rw [opens] at done
    obtain ⟨used, -, rfl, inside⟩ := carries_readQualified t ts e rest done
    refine ⟨used, Nat.zero_le _, rfl, fun u matching => ?_⟩
    refine (inside u matching).succ fun fuel us meets => ?_
    simp only [readNamed_succ, meets.skipSymbol? (by decide) opens]

/-- A test of membership is read behind its opening parenthesis. -/
theorem members (ih : Carrying P fuel) (negated : Bool) (e : Expr) (ts : List Token) :
    CarriesFor (Mirrors P e) P 1 3 0 (Mirrors P) ts (readMembers fuel negated e ts)
      fun f fuel us => readMembers fuel negated f us := by
  intro e' rest done
  rw [readMembers] at done
  cases closes : skipSymbol? ")" ts with
  | some behind =>
    rw [closes] at done
    obtain ⟨c, rfl, isClosing⟩ := of_skipSymbol? closes
    cases done
    refine ⟨[c], by simp, rfl, fun f mirrors => ?_⟩
    refine Rereads.token (fun _ _ => Rereads.done (.literal _) _) fun u matching fuel us => ?_
    simp only [readMembers, skipSymbol?_of_isSymbol matching.lexeme isClosing]
  | none =>
    rw [closes] at done
    obtain ⟨⟨items, r⟩, expressions, closing⟩ := bind_eq_ok done
    obtain ⟨used, takes, rfl, inside⟩ := ih.exprs ts items r expressions
    obtain ⟨_, closing, result⟩ := bind_eq_ok closing
    obtain ⟨c, rfl, isClosing⟩ := of_expectSymbol closing
    cases result
    refine ⟨used ++ [c], by simp, by simp, fun f mirrors => ?_⟩
    have last : ∀ fs, List.Forall₂ (Mirrors P) items fs → Rereads P 3 0 (Mirrors P)
        (Expr.negatedIf negated (.member e items)) [c] rest fun _ us => expectSymbol ")" us >>=
          fun us => .ok (Expr.negatedIf negated (.member f fs), us) := fun fs same =>
      (Rereads.done ((mirrors.member same).negatedIf negated) 0).symbol isClosing
    have both := inside.bind last (.inl (by simp)) (by simp)
    cases used with
    | nil => exact absurd takes (by decide)
    | cons t used =>
      refine (Rereads.lookHead both fun u matching fuel us => ?_).mono
        (by simp only [List.length_append, List.length_cons, List.length_nil]; omega)
        (.inl (Nat.le_refl 3))
      simp only [readMembers, skipSymbol?_of_head matching.lexeme closes]

/-- A match is read behind its pattern. -/
theorem escape (ih : Carrying P fuel) (negated : Bool) (kind : PatternKind) (e shape : Expr)
    (ts : List Token) :
    CarriesFor (fun others : Expr × Expr => Mirrors P e others.1 ∧ Mirrors P shape others.2)
      P 0 3 3 (Mirrors P) ts (readEscape fuel negated kind e shape ts)
      fun others fuel us => readEscape fuel negated kind others.1 others.2 us := by
  intro e' rest done
  rw [readEscape] at done
  cases escapes : skipWord? "ESCAPE" ts with
  | some behind =>
    rw [escapes] at done
    obtain ⟨w, rfl, isWord⟩ := of_skipWord? escapes
    obtain ⟨⟨c, r⟩, character, result⟩ := bind_eq_ok done
    obtain ⟨used, -, rfl, inside⟩ := ih.expr 5 behind c r character
    cases result
    refine ⟨w :: used, Nat.zero_le _, rfl, fun others mirrors => ?_⟩
    have whole := inside.map fun c' same =>
      (mirrors.1.escaped kind mirrors.2 same).negatedIf negated
    refine (Rereads.token (fun _ _ => whole) fun u matching fuel us => ?_).mono
      (by simp only [List.length_cons]; omega) (.inl (by decide))
    simp only [readEscape, skipWord?_of_isWord matching.lexeme isWord]
  | none =>
    rw [escapes] at done
    cases done
    refine ⟨[], Nat.zero_le _, rfl, fun others mirrors => ?_⟩
    refine (Rereads.done ((mirrors.1.pattern kind mirrors.2).negatedIf negated) _).look
      fun fuel us meets => ?_
    simp only [readEscape, meets.skipWord? (by decide) escapes]

/-- A test is read behind what it tests. -/
theorem test_succ (ih : Carrying P fuel) (negated : Bool) (e : Expr) (ts : List Token) :
    CarriesFor (Mirrors P e) P 1 3 1 (Mirrors P) ts (readTest (fuel + 1) negated e ts)
      fun f fuel us => readTest fuel negated f us := by
  intro e' rest done
  cases ts with
  | nil =>
    rw [readTest] at done
    cases done
  | cons t ts =>
    have again : ∀ u, Matches P t u → u.follow? = t.follow? := fun u matching =>
      follow?_congr matching.lexeme
    unfold readTest at done
    dsimp only at done
    split at done
    · next follows =>
      obtain ⟨_, opens, behind⟩ := bind_eq_ok done
      obtain ⟨o, rfl, isOpening⟩ := of_expectSymbol opens
      obtain ⟨used, -, rfl, inside⟩ := ih.members negated e _ e' rest behind
      refine ⟨t :: o :: used, by simp, rfl, fun f mirrors => ?_⟩
      have whole := (inside f mirrors).symbol isOpening
      refine (Rereads.step (fun _ _ => whole) fun u matching fuel us => ?_).mono
        (by simp only [List.length_cons]; omega) (.inl (Nat.le_refl 3))
      conv => lhs; unfold readTest
      simp only [again u matching, follows]
      rfl
    · next follows =>
      obtain ⟨⟨low, r⟩, first, afterLow⟩ := bind_eq_ok done
      obtain ⟨us, takes, rfl, inside⟩ := ih.expr 3 _ low r first
      obtain ⟨_, and', afterAnd⟩ := bind_eq_ok afterLow
      obtain ⟨w, rfl, isAnd⟩ := of_expectWord and'
      obtain ⟨⟨high, r⟩, second, result⟩ := bind_eq_ok afterAnd
      obtain ⟨vs, takes', rfl, inside'⟩ := ih.expr 5 _ high r second
      cases result
      refine ⟨t :: (us ++ w :: vs), by simp, by simp, fun f mirrors => ?_⟩
      have whole := inside.bind (fun low' same => (inside'.map fun high' same' =>
        (mirrors.between same same').negatedIf negated).word isAnd) (.inl (by simp)) (by simp)
      refine (Rereads.step (fun _ _ => whole) fun u matching fuel us => ?_).mono
        (by simp only [List.length_append, List.length_cons]; omega) (.inl (by decide))
      conv => lhs; unfold readTest
      simp only [again u matching, follows]
    · next kind follows =>
      obtain ⟨⟨shape, r⟩, first, afterShape⟩ := bind_eq_ok done
      obtain ⟨us, takes, rfl, inside⟩ := ih.expr 5 _ shape r first
      obtain ⟨vs, -, rfl, behind⟩ := ih.escape negated kind e shape r e' rest afterShape
      refine ⟨t :: (us ++ vs), by simp, by simp, fun f mirrors => ?_⟩
      have whole := inside.bind (fun shape' same => behind (f, shape') ⟨mirrors, same⟩)
        (.inr (.inr (by decide))) (by simp)
      refine (Rereads.step (fun _ _ => whole) fun u matching fuel us => ?_).mono
        (by simp only [List.length_append, List.length_cons]; omega) (.inl (Nat.le_refl 3))
      conv => lhs; unfold readTest
      simp only [again u matching, follows]
      rfl
    · next follows =>
      obtain ⟨⟨shape, r⟩, first, result⟩ := bind_eq_ok done
      obtain ⟨us, takes, rfl, inside⟩ := ih.expr 5 _ shape r first
      cases result
      refine ⟨t :: us, by simp, by simp, fun f mirrors => ?_⟩
      have result : ∀ u, Matches P t u → ∀ other, Mirrors P shape other →
          Mirrors P (Expr.negatedIf negated (.call t.text [shape, e] false false t.start))
            (Expr.negatedIf negated (.call u.text [other, f] false false u.start)) := by
        intro u matching other same
        rw [text_congr matching.lexeme]
        exact (Mirrors.call (.cons same (.cons mirrors .nil)) _ _ _ _ _).negatedIf negated
      refine (Rereads.step (fun u matching => inside.map (result u matching))
        fun u matching fuel us => ?_).mono
        (by simp only [List.length_cons]; omega) (.inl (by decide))
      conv => lhs; unfold readTest
      simp only [again u matching, follows]
    · cases done

/-- A signed number is read before whatever follows it. -/
theorem carries_readSigned (ts : List Token) :
    Carries P 1 3 0 (fun _ _ : Token => True) ts (readSigned ts) fun _ us => readSigned us := by
  intro t rest done
  rcases of_readSigned done with ⟨rfl, number⟩ | ⟨sign, rfl, signed, number⟩
  · refine ⟨[t], by simp, rfl, ?_⟩
    have result : ∀ u, Matches P t u →
        Rereads P 3 4 (fun _ _ : Token => True) t [] rest fun _ us => .ok (u, us) :=
      fun _ _ => Rereads.done trivial 4
    refine Rereads.token result fun u matching fuel us => ?_
    exact readSigned_number ((isNumber_congr matching.lexeme).trans number) us
  · refine ⟨[sign, t], by simp, rfl, ?_⟩
    have result : ∀ u, Matches P t u →
        Rereads P 3 8 (fun _ _ : Token => True) t [] rest fun _ us => .ok (u, us) :=
      fun _ _ => Rereads.done trivial 8
    refine Rereads.token (fun u matching => Rereads.token result
      fun v matching' fuel us => ?_) fun _ _ _ _ => rfl
    exact readSigned_sign ((isSign_congr matching.lexeme).trans signed)
      ((isNumber_congr matching'.lexeme).trans number) us

/-- The second bound of a type is read to the closing parenthesis. -/
theorem carries_readSecondBound (ts : List Token) :
    Carries P 1 3 0 (fun _ _ : Unit => True) ts (readSecondBound ts)
      fun _ us => readSecondBound us := by
  intro _ rest done
  rw [readSecondBound] at done
  have closes : ∀ c : Token, c.isSymbol ")" = true → Rereads P 3 0 (fun _ _ : Unit => True) ()
      [c] rest fun _ us => expectSymbol ")" us >>= fun us => .ok ((), us) :=
    fun c isClosing => (Rereads.done trivial 0).symbol isClosing
  cases comma : skipSymbol? "," ts with
  | some more =>
    rw [comma] at done
    obtain ⟨c, rfl, isComma⟩ := of_skipSymbol? comma
    obtain ⟨⟨t, r⟩, number, closing⟩ := bind_eq_ok done
    obtain ⟨used, takes, rfl, inside⟩ := carries_readSigned (P := P) more t r number
    obtain ⟨_, closing, result⟩ := bind_eq_ok closing
    obtain ⟨d, rfl, isClosing⟩ := of_expectSymbol closing
    cases result
    refine ⟨c :: (used ++ [d]), by simp, by simp, ?_⟩
    have whole := inside.bind (fun _ _ => closes d isClosing) (.inl (by simp)) (by simp)
    refine (Rereads.token (fun _ _ => whole) fun u matching fuel us => ?_).mono
      (by simp only [List.length_cons, List.length_append]; omega) (.inl (Nat.le_refl 3))
    simp only [readSecondBound, skipSymbol?_of_isSymbol matching.lexeme isComma]
  | none =>
    rw [comma] at done
    obtain ⟨_, closing, result⟩ := bind_eq_ok done
    obtain ⟨d, rfl, isClosing⟩ := of_expectSymbol closing
    cases result
    refine ⟨[d], by simp, rfl, ?_⟩
    refine ((closes d isClosing).look fun fuel us meets => ?_).mono (Nat.zero_le _)
      (.inl (Nat.le_refl 3))
    simp only [readSecondBound, meets.skipSymbol? (by decide) comma]

/-- The bounds of a type are read to the closing parenthesis. -/
theorem carries_readBounds (ts : List Token) :
    Carries P 1 3 0 (fun _ _ : Unit => True) ts (readBounds ts) fun _ us => readBounds us := by
  intro _ rest done
  obtain ⟨⟨t, r⟩, number, behind⟩ := bind_eq_ok done
  obtain ⟨first, takes, rfl, inside⟩ := carries_readSigned (P := P) ts t r number
  obtain ⟨second, takes', rfl, inside'⟩ := carries_readSecondBound (P := P) r () rest behind
  refine ⟨first ++ second, by simp only [List.length_append]; omega, by simp, ?_⟩
  exact (inside.bind (fun _ _ => inside') (.inr (.inl (Nat.le_refl 3))) (by simp)).mono
    (by simp only [List.length_append]; omega) (.inl (Nat.le_refl 3))

/-- The words of a type are all words up to one that is none. -/
theorem of_typeWords {ts words rest : List Token} (done : typeWords ts = (words, rest)) :
    ts = words ++ rest ∧ (∀ t ∈ words, t.isLooseName = true) ∧
      ∀ t ∈ rest.head?, t.isLooseName = false := by
  induction ts generalizing words with
  | nil =>
    cases done
    simp
  | cons t ts ih =>
    rw [typeWords] at done
    split at done
    · next loose =>
      obtain ⟨rfl, rfl⟩ := Prod.mk.inj done
      obtain ⟨parts, words, ends⟩ := ih rfl
      refine ⟨?_, ?_, ends⟩
      · rw [List.cons_append, ← parts]
      · simpa [loose] using words
    · next other =>
      obtain ⟨rfl, rfl⟩ := Prod.mk.inj done
      simpa using other

/-- Words before a token that is none are the words of a type. -/
theorem typeWords_append {words rest : List Token} (loose : ∀ t ∈ words, t.isLooseName = true)
    (ends : ∀ t ∈ rest.head?, t.isLooseName = false) :
    typeWords (words ++ rest) = (words, rest) := by
  induction words with
  | nil =>
    cases rest with
    | nil => rfl
    | cons t rest =>
      have other := ends t rfl
      simp [typeWords, other]
  | cons t words ih =>
    have first := loose t List.mem_cons_self
    have others := ih fun u mem => loose u (List.mem_cons_of_mem t mem)
    simp [typeWords, first, others]

/-- Tokens that match have the same texts. -/
theorem map_text_congr {ts us : List Token} (matching : List.Forall₂ (Matches P) ts us) :
    us.map Token.text = ts.map Token.text := by
  induction matching with
  | nil => rfl
  | cons first _ ih => rw [List.map_cons, List.map_cons, text_congr first.lexeme, ih]

/-- Tokens that match words of a type are such words. -/
theorem loose_congr {ts us : List Token} (matching : List.Forall₂ (Matches P) ts us)
    (loose : ∀ t ∈ ts, t.isLooseName = true) : ∀ u ∈ us, u.isLooseName = true := by
  induction matching with
  | nil => exact nofun
  | cons first _ ih =>
    intro u mem
    rcases List.mem_cons.1 mem with rfl | mem
    · exact (isLooseName_congr first.lexeme).trans (loose _ List.mem_cons_self)
    · exact ih (fun t mem => loose t (List.mem_cons_of_mem _ mem)) u mem

/-- A type without bounds is its words. -/
theorem readType_words {words rest : List Token} (loose : ∀ t ∈ words, t.isLooseName = true)
    (ends : ∀ t ∈ rest.head?, t.isLooseName = false)
    (bare : words = [] ∨ skipSymbol? "(" rest = none) :
    readType (words ++ rest) = .ok (words, rest) := by
  rw [readType_eq, typeWords_append loose ends]
  cases words with
  | nil => rfl
  | cons t words =>
    have none := bare.resolve_left (List.cons_ne_nil t words)
    simp only [none]

/-- A type with bounds is all that is read of it. -/
theorem readType_bounded {t opening : Token} {words bounds rest : List Token}
    (loose : ∀ u ∈ t :: words, u.isLooseName = true) (opens : opening.isSymbol "(" = true)
    (closes : readBounds (bounds ++ rest) = .ok ((), rest)) :
    readType (t :: words ++ opening :: (bounds ++ rest)) =
      .ok (t :: words ++ opening :: bounds, rest) := by
  have other : opening.isLooseName = false := by
    simp only [Token.isSymbol, Bool.and_eq_true, beq_iff_eq] at opens
    simp [Token.isLooseName, opens.1]
  have ends : ∀ u ∈ (opening :: (bounds ++ rest)).head?, u.isLooseName = false := by
    simpa using other
  have taken : (t :: words ++ opening :: (bounds ++ rest)).take
      ((t :: words ++ opening :: (bounds ++ rest)).length - rest.length) =
        t :: words ++ opening :: bounds := by
    have parts : t :: words ++ opening :: (bounds ++ rest) =
        (t :: words ++ opening :: bounds) ++ rest := by simp
    rw [parts, List.length_append, Nat.add_sub_cancel, List.take_left]
  rw [readType_eq, typeWords_append loose ends]
  simp only [skipSymbol?, opens, if_true, closes]
  exact congrArg (fun type => Except.ok (type, rest)) taken

/-- A type that is read is read again, with the same text. -/
theorem carries_readType (ts : List Token) :
    Carries P 0 0 0 (fun words others => typeText others = typeText words) ts (readType ts)
      fun _ us => readType us := by
  intro type rest whole
  have done := whole
  rw [readType_eq] at done
  cases parts : typeWords ts with
  | mk words r =>
    obtain ⟨rfl, loose, ends⟩ := of_typeWords parts
    rw [parts] at done
    have plain : words = [] ∨ skipSymbol? "(" r = none → type = words → rest = r →
        ∃ used, 0 ≤ used.length ∧ words ++ r = used ++ rest ∧
          Rereads P 0 (4 * used.length + 0) (fun ws vs => typeText vs = typeText ws) type used rest
            fun _ us => readType us := by
      rintro bare rfl rfl
      refine ⟨type, Nat.zero_le _, rfl, fun used' matching => ⟨used', ?_, ?_⟩⟩
      · simp only [typeText, map_text_congr matching]
      · intro behind _ meets _
        refine readType_words (loose_congr matching loose) ?_ ?_
        · cases meets with
          | same same => simpa [isLooseName_congr same] using ends
          | ends enough _ _ => exact absurd enough (by decide)
        · refine bare.imp ?_ fun none => meets.skipSymbol? (by decide) none
          rintro rfl
          exact List.forall₂_nil_left_iff.1 matching
    cases words with
    | nil =>
      cases done
      exact plain (.inl rfl) rfl rfl
    | cons t words =>
      dsimp only at done
      cases opens : skipSymbol? "(" r with
      | none =>
        rw [opens] at done
        cases done
        exact plain (.inr opens) rfl rfl
      | some more =>
        rw [opens] at done
        obtain ⟨o, rfl, isOpening⟩ := of_skipSymbol? opens
        obtain ⟨⟨_, r⟩, bounds, result⟩ := bind_eq_ok done
        obtain ⟨used, -, rfl, inside⟩ := carries_readBounds (P := P) more () r bounds
        have same := (readType_bounded loose isOpening bounds).symm.trans whole
        obtain ⟨rfl, rfl⟩ := Prod.mk.inj (Except.ok.inj same)
        refine ⟨t :: words ++ o :: used, Nat.zero_le _, by simp, ?_⟩
        intro used' matching
        obtain ⟨ws, others, rfl, matchingWords, matchingOthers⟩ := forall₂_append matching
        obtain ⟨u, ws, matchingFirst, matchingRest, rfl⟩ :=
          List.forall₂_cons_left_iff.1 matchingWords
        obtain ⟨p, bs, matchingOpening, matchingBounds, rfl⟩ :=
          List.forall₂_cons_left_iff.1 matchingOthers
        have texts := map_text_congr (.cons matchingFirst matchingRest)
        have texts' := map_text_congr (.cons matchingOpening matchingBounds)
        refine ⟨u :: ws ++ p :: bs, ?_, ?_⟩
        · simp only [typeText, List.map_append, texts, texts']
        · intro behind fuel meets fueled
          obtain ⟨_, -, go⟩ := inside bs matchingBounds
          have loose' := loose_congr (.cons matchingFirst matchingRest) loose
          have opens' := (isSymbol_congr matchingOpening.lexeme "(").trans isOpening
          have bounds' := go behind fuel (meets.mono (.inl (Nat.zero_le 3)))
            (by simp only [List.length_append, List.length_cons] at fueled; omega)
          have again := readType_bounded loose' opens' bounds'
          simpa using again

/-- An operator before what it applies to, of which it may look at the first token. -/
theorem prefixOperand (ih : Carrying P fuel) {t : Token} (op : UnaryOp) {ts rest : List Token} {x : Expr}
    (operand : readExpr fuel 12 ts = .ok (x, rest))
    (same : ∀ d more, ts = d :: more → ∀ u, Matches P t u → ∀ v, Matches P d v → ∀ fuel us,
      readOperand (fuel + 1) (u :: v :: us) =
        (readExpr fuel 12 (v :: us) >>= fun b => .ok (.unary op b.1, b.2))) :
    ∃ used, 1 ≤ used.length ∧ t :: ts = used ++ rest ∧
      Rereads P 3 (4 * used.length + 2) (Mirrors P) (.unary op x) used rest readOperand := by
  obtain ⟨used, takes, rfl, inside⟩ := ih.expr 12 ts x rest operand
  cases used with
  | nil => exact absurd takes (by decide)
  | cons d used =>
    refine ⟨t :: d :: used, by simp, rfl, ?_⟩
    have whole := inside.map fun b mirrors => mirrors.unary op
    exact (Rereads.step (fun u matching => whole.lookHead (same d _ rfl u matching))
      fun _ _ _ _ => rfl).mono (by simp only [List.length_cons]; omega) (.inl (by decide))

/-- An operand that a symbol starts is read to its end. -/
theorem symbolOperand (ih : Carrying P fuel) {t : Token} (kind : t.kind = .symbol)
    (ts : List Token) :
    Carries P 1 3 2 (Mirrors P) (t :: ts) (readOperand (fuel + 1) (t :: ts)) readOperand := by
  intro e rest done
  have again : ∀ u, Matches P t u → u.kind = .symbol := fun u matching =>
    (kind_congr matching.lexeme).trans kind
  rw [readOperand_symbol kind, readSymbolled] at done
  by_cases opens : t.isSymbol "(" = true
  · rw [if_pos opens] at done
    obtain ⟨⟨a, r⟩, whole, closes⟩ := bind_eq_ok done
    obtain ⟨used, takes, rfl, inside⟩ := ih.expr 0 ts a r whole
    obtain ⟨_, closing, result⟩ := bind_eq_ok closes
    obtain ⟨c, rfl, isClosing⟩ := of_expectSymbol closing
    cases result
    refine ⟨t :: (used ++ [c]), by simp, by simp, ?_⟩
    have last : ∀ b, Mirrors P a b → Rereads P 3 0 (Mirrors P) a [c] rest fun _ us =>
        expectSymbol ")" us >>= fun us => .ok (b, us) := fun b mirrors =>
      (Rereads.done mirrors 0).symbol isClosing
    have both := inside.bind last (.inl (by simp)) (by simp)
    refine (Rereads.step (fun _ _ => both) fun u matching fuel us => ?_).mono
      (by simp only [List.length_cons, List.length_append]; omega) (.inl (Nat.le_refl 3))
    simp only [readOperand_symbol (again u matching), readSymbolled,
      isSymbol_congr matching.lexeme, if_pos opens]
  rw [if_neg opens] at done
  by_cases minus : t.isSymbol "-" = true
  · rw [if_pos minus] at done
    cases ts with
    | nil => cases done
    | cons d more =>
      rw [readNegative] at done
      by_cases least : (d.kind == .integer && d.source.all Text.isDigit &&
          Number.digitsValue d.source == Nat.pow 2 63) = true
      · rw [if_pos least] at done
        cases done
        refine ⟨[t, d], by simp, rfl, ?_⟩
        have result : Rereads P 3 0 (Mirrors P) (.literal (.integer Int64.minValue)) [] rest
            fun _ us => .ok (.literal (.integer Int64.minValue), us) := Rereads.done (.literal _) 0
        refine (Rereads.step (fun u matching => Rereads.token (fun _ _ => result)
          fun v matching' fuel us => ?_) fun _ _ _ _ => rfl).mono (by simp)
          (.inl (Nat.le_refl 3))
        simp only [readOperand_symbol (again u matching), readSymbolled, readNegative,
          isSymbol_congr matching.lexeme, if_neg opens, if_pos minus, kind_congr matching'.lexeme,
          source_congr matching'.lexeme, if_pos least]
      · rw [if_neg least] at done
        obtain ⟨⟨x, r⟩, operand, result⟩ := bind_eq_ok done
        cases result
        refine ih.prefixOperand .minus operand ?_
        rintro _ _ ⟨⟩ u matching v matching' fuel us
        simp only [readOperand_symbol (again u matching), readSymbolled, readNegative,
          isSymbol_congr matching.lexeme, if_neg opens, if_pos minus, kind_congr matching'.lexeme,
          source_congr matching'.lexeme, if_neg least]
  rw [if_neg minus] at done
  by_cases plus : t.isSymbol "+" = true
  · rw [if_pos plus] at done
    obtain ⟨⟨x, r⟩, operand, result⟩ := bind_eq_ok done
    cases result
    refine ih.prefixOperand .plus operand fun _ _ _ u matching v _ fuel us => ?_
    simp only [readOperand_symbol (again u matching), readSymbolled,
      isSymbol_congr matching.lexeme, if_neg opens, if_neg minus, if_pos plus]
  rw [if_neg plus] at done
  by_cases tilde : t.isSymbol "~" = true
  · rw [if_pos tilde] at done
    obtain ⟨⟨x, r⟩, operand, result⟩ := bind_eq_ok done
    cases result
    refine ih.prefixOperand .complement operand fun _ _ _ u matching v _ fuel us => ?_
    simp only [readOperand_symbol (again u matching), readSymbolled,
      isSymbol_congr matching.lexeme, if_neg opens, if_neg minus, if_neg plus, if_pos tilde]
  · rw [if_neg tilde] at done
    cases done

/-- What is converted, and to what, is read to its end. -/
theorem castOperand (ih : Carrying P fuel) (ts : List Token) :
    Carries P 1 3 1 (Mirrors P) ts (readCast fuel ts) readCast := by
  intro e rest done
  obtain ⟨_, opens, afterOpening⟩ := bind_eq_ok done
  obtain ⟨o, rfl, isOpening⟩ := of_expectSymbol opens
  obtain ⟨⟨x, r⟩, operand, afterOperand⟩ := bind_eq_ok afterOpening
  obtain ⟨us, takes, rfl, inside⟩ := ih.expr 0 _ x r operand
  obtain ⟨_, as', afterAs⟩ := bind_eq_ok afterOperand
  obtain ⟨w, rfl, isAs⟩ := of_expectWord as'
  obtain ⟨⟨words, r⟩, type, afterType⟩ := bind_eq_ok afterAs
  obtain ⟨vs, -, rfl, inside'⟩ := carries_readType (P := P) _ words r type
  obtain ⟨_, closing, result⟩ := bind_eq_ok afterType
  obtain ⟨c, rfl, isClosing⟩ := of_expectSymbol closing
  cases result
  refine ⟨o :: (us ++ w :: (vs ++ [c])), by simp, by simp, ?_⟩
  have last : ∀ y, Mirrors P x y → ∀ others, typeText others = typeText words →
      Rereads P 3 0 (Mirrors P) (.cast x (Affinity.ofDeclared (typeText words))) [c] rest
        fun _ us => expectSymbol ")" us >>= fun us =>
          .ok (.cast y (Affinity.ofDeclared (typeText others)), us) := by
    intro y same others text
    rw [text]
    exact (Rereads.done (same.cast _) 0).symbol isClosing
  have whole := inside.bind (fun y same =>
    (inside'.bind (last y same) (.inl (by simp)) (by simp)).word isAs) (.inl (by simp)) (by simp)
  exact (whole.symbol isOpening).mono
    (by simp only [List.length_cons, List.length_append]; omega) (.inl (Nat.le_refl 3))

/-- An operand that a word starts is read to its end. -/
theorem wordOperand (ih : Carrying P fuel) {t : Token} (kind : t.kind = .word)
    (ts : List Token) :
    Carries P 1 3 2 (Mirrors P) (t :: ts) (readOperand (fuel + 1) (t :: ts)) readOperand := by
  intro e rest done
  have again : ∀ u, Matches P t u → u.kind = .word := fun u matching =>
    (kind_congr matching.lexeme).trans kind
  rw [readOperand_word kind, readWorded] at done
  by_cases isNot : t.isWord "NOT" = true
  · rw [if_pos isNot] at done
    obtain ⟨⟨x, r⟩, operand, result⟩ := bind_eq_ok done
    obtain ⟨used, takes, rfl, inside⟩ := ih.expr 3 ts x r operand
    cases result
    refine ⟨t :: used, by simp, rfl, ?_⟩
    have whole := inside.map fun b mirrors => mirrors.unary .not
    refine (Rereads.step (fun _ _ => whole) fun u matching fuel us => ?_).mono
      (by simp only [List.length_cons]; omega) (.inl (Nat.le_refl 3))
    simp only [readOperand_word (again u matching), readWorded,
      isWord_congr matching.lexeme, if_pos isNot]
  rw [if_neg isNot] at done
  by_cases isNull : t.isWord "NULL" = true
  · rw [if_pos isNull] at done
    cases done
    refine ⟨[t], by simp, rfl, ?_⟩
    refine (Rereads.step (fun _ _ => Rereads.done (.literal .null) 0)
      fun u matching fuel us => ?_).mono (by simp) (.inl (Nat.le_refl 3))
    simp only [readOperand_word (again u matching), readWorded, isWord_congr matching.lexeme,
      if_neg isNot, if_pos isNull]
  rw [if_neg isNull] at done
  by_cases isCast : (t.isWord "CAST" && (skipSymbol? "(" ts).isSome) = true
  · rw [if_pos isCast] at done
    rw [Bool.and_eq_true] at isCast
    obtain ⟨used, takes, rfl, inside⟩ := ih.castOperand ts e rest done
    cases used with
    | nil => exact absurd takes (by decide)
    | cons o used =>
      have isOpening : o.isSymbol "(" = true := by
        by_contra other
        simp [skipSymbol?, other] at isCast
      refine ⟨t :: o :: used, by simp, rfl, ?_⟩
      refine (Rereads.step (fun u matching => inside.lookHead
        fun v matching' fuel us => ?_) fun _ _ _ _ => rfl).mono
        (by simp only [List.length_cons]; omega) (.inl (Nat.le_refl 3))
      have opens' := (isSymbol_congr matching'.lexeme "(").trans isOpening
      have casts : (t.isWord "CAST" && (skipSymbol? "(" (v :: us)).isSome) = true := by
        simp [isCast.1, skipSymbol?, opens']
      simp only [readOperand_word (again u matching), readWorded, isWord_congr matching.lexeme,
        if_neg isNot, if_neg isNull, if_pos casts]
  rw [if_neg isCast] at done
  by_cases isCase : t.isWord "CASE" = true
  · rw [if_pos isCase] at done
    obtain ⟨used, takes, rfl, inside⟩ := ih.choice ts e rest done
    refine ⟨t :: used, by simp, rfl, ?_⟩
    refine (Rereads.step (fun _ _ => inside) fun u matching fuel us => ?_).mono
      (by simp only [List.length_cons]; omega) (.inl (Nat.le_refl 3))
    have other : t.isWord "CAST" = false := by
      simp only [Token.isWord, kind, beq_self_eq_true, Bool.true_and, beq_iff_eq] at isCase ⊢
      simp [isCase]
    simp only [readOperand_word (again u matching), readWorded, isWord_congr matching.lexeme,
      if_neg isNot, if_neg isNull, other, Bool.false_and, Bool.false_eq_true, if_false,
      if_pos isCase]
  rw [if_neg isCase] at done
  by_cases reserved : isReserved t.text = true
  · rw [if_pos reserved] at done
    cases done
  · rw [if_neg reserved] at done
    obtain ⟨used, -, rfl, inside⟩ := ih.named t ts e rest done
    refine ⟨t :: used, by simp, rfl, ?_⟩
    refine (Rereads.step (fun u matching => (inside u matching).look fun fuel us meets => ?_)
      fun _ _ _ _ => rfl).mono (by simp only [List.length_cons]; omega) (.inl (Nat.le_refl 3))
    have other : ¬ (u.isWord "CAST" && (skipSymbol? "(" us).isSome) = true := by
      rw [isWord_congr matching.lexeme]
      intro both
      rw [Bool.and_eq_true] at isCast both
      refine isCast ⟨both.1, ?_⟩
      rw [← Bool.not_eq_false]
      intro missing
      rw [meets.skipSymbol? (by decide) (by simpa using missing)] at both
      cases both.2
    simp only [readOperand_word (again u matching), readWorded, isWord_congr matching.lexeme,
      if_neg isNot, if_neg isNull, text_congr matching.lexeme, if_neg isCase, if_neg reserved]
    rw [isWord_congr matching.lexeme] at other
    rw [if_neg other]

/-- An operand is read to its end. -/
theorem operand_succ (ih : Carrying P fuel) (ts : List Token) :
    Carries P 1 3 2 (Mirrors P) ts (readOperand (fuel + 1) ts) readOperand := by
  intro e rest done
  cases ts with
  | nil =>
    rw [readOperand] at done
    cases done
  | cons t ts =>
    have whole := done
    -- a token that is an operand by itself
    have alone : ∀ again : Token → Expr, ts = rest →
        (∀ u, Matches P t u → Mirrors P e (again u)) →
        (∀ u, Matches P t u → ∀ fuel us, readOperand (fuel + 1) (u :: us) = .ok (again u, us)) →
        ∃ used, 1 ≤ used.length ∧ t :: ts = used ++ rest ∧
          Rereads P 3 (4 * used.length + 2) (Mirrors P) e used rest readOperand := by
      rintro again rfl mirrors same
      refine ⟨[t], by simp, rfl, ?_⟩
      exact (Rereads.step (fun u matching => Rereads.done (mirrors u matching) 0) same).mono
        (by simp) (.inl (Nat.le_refl 3))
    unfold readOperand at done
    dsimp only at done
    split at done
    · next kind =>
      cases done
      refine alone (fun u => .literal (integerLiteral u.source)) rfl (fun u matching => ?_)
        fun u matching fuel us => ?_
      · rw [source_congr matching.lexeme]
        exact .literal _
      · simp only [readOperand, kind_congr matching.lexeme, kind]
    · next kind =>
      cases done
      refine alone (fun u => .literal (.real ((Number.readReal? u.source).getD
        (Number.Double.zero false)))) rfl (fun u matching => ?_) fun u matching fuel us => ?_
      · rw [source_congr matching.lexeme]
        exact .literal _
      · simp only [readOperand, kind_congr matching.lexeme, kind]
    · next kind =>
      cases done
      refine alone (fun u => .literal (.text u.unquoted)) rfl (fun u matching => ?_)
        fun u matching fuel us => ?_
      · rw [unquoted_congr matching.lexeme]
        exact .literal _
      · simp only [readOperand, kind_congr matching.lexeme, kind]
    · next kind =>
      cases done
      refine alone (fun u => .literal (blobLiteral u.source)) rfl (fun u matching => ?_)
        fun u matching fuel us => ?_
      · rw [source_congr matching.lexeme]
        exact .literal _
      · simp only [readOperand, kind_congr matching.lexeme, kind]
    · next kind =>
      split at done
      · cases done
        refine alone (fun u => .parameter u.slot) rfl (fun u matching => ?_)
          fun u matching fuel us => ?_
        · exact .parameter (matching.slot kind).1
        · simp only [readOperand, kind_congr matching.lexeme, kind, if_pos (matching.slot kind).2]
      · cases done
    · next kind => exact ih.symbolOperand kind ts e rest whole
    · next kind =>
      obtain ⟨used, -, rfl, inside⟩ := ih.named t ts e rest done
      refine ⟨t :: used, by simp, rfl, ?_⟩
      refine (Rereads.step inside fun u matching fuel us => ?_).mono
        (by simp only [List.length_cons]; omega) (.inl (Nat.le_refl 3))
      simp only [readOperand, kind_congr matching.lexeme, kind]
    · next kind =>
      obtain ⟨used, -, rfl, inside⟩ := ih.named t ts e rest done
      refine ⟨t :: used, by simp, rfl, ?_⟩
      refine (Rereads.step inside fun u matching fuel us => ?_).mono
        (by simp only [List.length_cons]; omega) (.inl (Nat.le_refl 3))
      simp only [readOperand, kind_congr matching.lexeme, kind]
    · next kind => exact ih.wordOperand kind ts e rest whole
    · cases done

end Carrying

/-- Every reading of an expression is carried elsewhere. -/
theorem carrying (P : Renumbering) : ∀ fuel, Carrying P fuel
  | 0 => by
    constructor <;> intros <;> intro _ _ done
    all_goals
      first
      | rw [readExpr] at done
      | rw [readFollows] at done
      | rw [readIdentity] at done
      | rw [readTest] at done
      | rw [readOperand] at done
      | rw [readNamed] at done
      | rw [readCall] at done
      | rw [readExprs] at done
      | rw [readChoice] at done
      | rw [readBranches] at done
      cases done
  | fuel + 1 =>
    have ih := carrying P fuel
    { expr := ih.expr_succ
      follows := ih.follows_succ
      identity := ih.identity_succ
      test := ih.test_succ
      operand := ih.operand_succ
      named := ih.named_succ
      call := ih.call_succ
      exprs := ih.exprs_succ
      choice := ih.choice_succ
      branches := ih.branches_succ }

end Registrar.Sql
