import Registrar.Proofs.Sql.Embedding
import Registrar.Proofs.Sql.Truth

/-!
# Alternatives of an expression

What text that a caller writes is read as depends on the words that join it to its surroundings:
`AND` binds more strongly than `OR`, whoever wrote them.  So a text keeps, wherever it stands between
such words, its alternatives alone: the parts with `OR` between them, each of them conditions with
`AND` between them.  `ReadsAlternatives` cuts a text into them, `ReadsAlternatives.carries` says that
they are read again in other surroundings, and `Alternates` puts them together: `OR` behind a text
adds the alternatives of the next one, and `AND` splices the last alternative of one text with the
first of the next.
-/

namespace Registrar.Sql

open Token Registrar.Sql.Expr

/-- The operators that are weaker than a negation join conditions. -/
theorem joins_of_weak {t : Token} {follow : Follow} (follows : t.follow? = some follow)
    (weak : follow.strength < 3) :
    (t.isWord "AND" = true ∧ follow = .binary .and 2) ∨
      (t.isWord "OR" = true ∧ follow = .binary .or 1) := by
  unfold Token.follow? at follows
  split at follows
  · next kind =>
    unfold symbolFollow at follows
    split at follows <;> cases follows <;> simp only [Follow.strength] at weak <;> omega
  · next kind =>
    unfold wordFollow at follows
    split at follows <;> cases follows <;> simp only [Follow.strength] at weak <;> try omega
    · next same => exact .inr ⟨by simp [Token.isWord, kind, same], rfl⟩
    · next same => exact .inl ⟨by simp [Token.isWord, kind, same], rfl⟩
  · cases follows

/-- What the name of a collation behind an expression makes of it. -/
def collated (e : Expr) (name : Token) (rest : List Token) : Except Stop (Expr × List Token) :=
  match Text.upperAscii name.unquoted with
  | "BINARY" => .ok (.collate e .binary, rest)
  | "NOCASE" => .ok (.collate e .nocase, rest)
  | "RTRIM" => .ok (.collate e .rtrim, rest)
  | _ => .error (.fault (Problem.unknownCollation name.unquoted).bare)

/-- What `NOT` behind an expression makes of it. -/
def readNegated (fuel : Nat) (e : Expr) : List Token → Except Stop (Expr × List Token)
  | [] => .error (.here [])
  | word :: rest =>
    if word.isWord "NULL" then .ok (.unary .notNull e, rest)
    else readTest fuel true e (word :: rest)

theorem leaves_collated (e : Expr) (name : Token) {ts rest : List Token} (left : rest <:+ ts) :
    Leaves ts (collated e name rest) := by
  unfold collated
  split
  · exact .ok left
  · exact .ok left
  · exact .ok left
  · exact .error _

theorem leaves_readNegated {fuel : Nat} (left : Leaving fuel) (e : Expr) (ts : List Token) :
    Leaves ts (readNegated fuel e ts) := by
  cases ts with
  | nil => exact .error _
  | cons word more =>
    rw [readNegated]
    split
    · exact .ok (List.suffix_cons word more)
    · exact left.test true e _

/-- An operator takes what stands behind it whatever level the reading has, if it is strong enough. -/
theorem readFollows_step {t : Token} {follow : Follow} (follows : t.follow? = some follow)
    (fuel : Nat) (e : Expr) (rest : List Token) :
    ∃ taken : Except Stop (Expr × List Token), Leaves rest taken ∧
      ∀ level, level ≤ follow.strength → readFollows (fuel + 1) level e (t :: rest) =
        (taken >>= fun b => readFollows fuel level b.1 b.2) := by
  have left := leaving fuel
  have tests : Leaves rest (readTest fuel false e (t :: rest)) := by
    intro result done
    obtain ⟨used, some', parts, -⟩ :=
      (carrying (fun _ _ => False) fuel).test false e (t :: rest) result.1 result.2 done
    cases used with
    | nil => exact absurd some' (by decide)
    | cons u used =>
      obtain ⟨-, behind⟩ := List.cons.inj parts
      exact ⟨used, behind.symm⟩
  cases follow with
  | binary op strength =>
    refine ⟨readExpr fuel (strength + 1) rest >>= fun b => .ok (.binary op e b.1, b.2), ?_, ?_⟩
    · exact leaves_bind (left.expr _ rest) (List.suffix_refl rest) fun b more left => .ok left
    · intro level le
      rw [readFollows_binary follows le]
      cases readExpr fuel (strength + 1) rest <;> rfl
  | isNull =>
    refine ⟨.ok (.unary .isNull e, rest), .ok (List.suffix_refl rest), fun level le => ?_⟩
    conv => lhs; unfold readFollows
    simp only [follows, if_neg (Nat.not_lt.2 le)]
    rfl
  | notNull =>
    refine ⟨.ok (.unary .notNull e, rest), .ok (List.suffix_refl rest), fun level le => ?_⟩
    conv => lhs; unfold readFollows
    simp only [follows, if_neg (Nat.not_lt.2 le)]
    rfl
  | collate =>
    refine ⟨readName rest >>= fun name => collated e name.1 name.2, ?_, fun level le => ?_⟩
    · exact leaves_bind (leaves_readName rest) (List.suffix_refl rest) fun name more left =>
        leaves_collated e name left
    · conv => lhs; unfold readFollows
      simp only [follows, if_neg (Nat.not_lt.2 le)]
      cases readName rest with
      | error stop => rfl
      | ok name =>
        simp only [bind, Except.bind, collated]
        split <;> simp only [*]
  | is =>
    refine ⟨readIdentity fuel e rest, left.identity e rest, fun level le => ?_⟩
    conv => lhs; unfold readFollows
    simp only [follows, if_neg (Nat.not_lt.2 le)]
  | not =>
    refine ⟨readNegated fuel e rest, leaves_readNegated left e rest, fun level le => ?_⟩
    conv => lhs; unfold readFollows
    simp only [follows, if_neg (Nat.not_lt.2 le)]
    cases rest with
    | nil => rfl
    | cons word more =>
      dsimp only [readNegated]
      split <;> rfl
  | _ =>
    refine ⟨_, tests, fun level le => ?_⟩
    conv => lhs; unfold readFollows
    simp only [follows, if_neg (Nat.not_lt.2 le)]

/-- A token stops the operators of a level: it is no operator, or one that is weaker. -/
def Halted (level : Nat) (ts : List Token) : Prop :=
  ∀ t rest, ts = t :: rest → ∀ follow, t.follow? = some follow → follow.strength < level

theorem halted_nil (level : Nat) : Halted level [] := by
  intro t rest same
  cases same

/-- What operators of a level and more take behind an expression is what the stronger ones among
them take first, and then the others. -/
theorem readFollows_split {low high : Nat} (le : low ≤ high) (fuel : Nat) (e : Expr)
    (ts : List Token) :
    (∃ stop, readFollows fuel low e ts = .error stop ∧ readFollows fuel high e ts = .error stop) ∨
      ∃ f rest left, readFollows fuel high e ts = .ok (f, rest) ∧ Halted high rest ∧
        rest <:+ ts ∧ 0 < left ∧ fuel + rest.length ≤ left + ts.length ∧
        readFollows fuel low e ts = readFollows left low f rest := by
  induction fuel generalizing e ts with
  | zero =>
    refine .inl ⟨.here ts, ?_, ?_⟩
    · rw [readFollows]
    · rw [readFollows]
  | succ fuel ih =>
    cases ts with
    | nil =>
      refine .inr ⟨e, [], fuel + 1, by rw [readFollows], halted_nil high, List.suffix_refl [],
        by omega, by omega, rfl⟩
    | cons t ts =>
      by_cases weak : ∀ follow, t.follow? = some follow → follow.strength < high
      · refine .inr ⟨e, t :: ts, fuel + 1, readFollows_stop weak fuel e ts, ?_,
          List.suffix_refl _, by omega, by omega, rfl⟩
        intro t' rest same
        obtain ⟨rfl, -⟩ := List.cons.inj same
        exact weak
      · obtain ⟨follow, follows, strong⟩ : ∃ follow, t.follow? = some follow ∧
            high ≤ follow.strength := by
          simpa using weak
        obtain ⟨taken, leaves, step⟩ := readFollows_step follows fuel e ts
        rw [step low (by omega), step high strong]
        cases result : taken with
        | error stop => exact .inl ⟨stop, rfl, rfl⟩
        | ok b =>
          have among := leaves b result
          have shorter := among.length_le
          simp only [bind, Except.bind]
          rcases ih b.1 b.2 with failed | ⟨f, rest, left, read, halted, suffix, some', enough, same⟩
          · exact .inl failed
          · refine .inr ⟨f, rest, left, read, halted, ?_, some', ?_, same⟩
            · exact (suffix.trans among).trans (List.suffix_cons t ts)
            · simp only [List.length_cons]
              omega

/-- Tokens are read as an operand of a level wherever conditions end behind them, and reading goes on
with most of its fuel. -/
def StandsAs (L : Level) (ts : List Token) (e : Expr) : Prop :=
  ∀ ⦃fuel level : Nat⦄ ⦃rest : List Token⦄, level ≤ L.bound → Ends rest → Stops L.ceiling rest →
    4 * ts.length + 4 ≤ fuel → ∃ left, fuel ≤ left + 4 * ts.length ∧
      readExpr fuel level (ts ++ rest) = readFollows left level e rest

/-- What is read before one end of conditions by the operators that are stronger than those that join
them, stands as an operand before every such end. -/
theorem standsAs_of_carries {P : Renumbering} {fuel : Nat} {ts rest : List Token} {e : Expr}
    (read : readExpr fuel 3 ts = .ok (e, rest)) (ends : Ends rest) :
    ∃ used, ts = used ++ rest ∧ ∀ used', List.Forall₂ (Matches P) used used' →
      ∃ f, Mirrors P e f ∧ StandsAs .term used' f := by
  obtain ⟨used, some', rfl, again⟩ := (carrying P fuel).expr 3 ts e rest read
  refine ⟨used, rfl, fun used' matching => ?_⟩
  obtain ⟨f, mirrors, go⟩ := again used' matching
  refine ⟨f, mirrors, ?_⟩
  intro fuel level behind le ends' _ fueled
  have same : used'.length = used.length := matching.length_eq.symm
  have whole : readExpr fuel 3 (used' ++ behind) = .ok (f, behind) :=
    go behind fuel (.ends (Nat.le_refl 3) ends ends') (by omega)
  obtain ⟨fuel, rfl⟩ := Nat.exists_eq_add_of_le' (show 1 ≤ fuel by omega)
  rw [readExpr] at whole
  obtain ⟨⟨a, more⟩, operand, follows⟩ := bind_eq_ok whole
  have shorter : more.length ≤ (used' ++ behind).length :=
    ((leaving fuel).operand _ _ operand).length_le
  dsimp only at follows
  rcases readFollows_split (show level ≤ 3 from le) fuel a more with
    ⟨stop, -, failed⟩ | ⟨g, left, less, taken, -, -, -, enough, goes⟩
  · rw [failed] at follows
    cases follows
  · rw [taken] at follows
    obtain ⟨rfl, rfl⟩ := Prod.mk.inj (Except.ok.inj follows)
    refine ⟨less, ?_, ?_⟩
    · simp only [List.length_append] at shorter
      omega
    · rw [readExpr, operand]
      exact goes

namespace StandsAs

variable {L M : Level} {ts us : List Token} {e a b : Expr}

/-- What is an operand of a level is one of every weaker level. -/
theorem mono (stands : StandsAs L ts e) (bound : M.bound ≤ L.bound) (ceiling : M.ceiling ≤ L.ceiling) :
    StandsAs M ts e :=
  fun _ _ _ le ends stops fueled =>
    stands (Nat.le_trans le bound) ends (stops.mono ceiling) fueled

/-- A chain goes on with a word that is as strong as its level and one more operand, of the level
above. -/
theorem chain {t : Token} {word : String} {op : BinaryOp} (first : StandsAs L ts a)
    (isWord : t.isWord word = true) (known : word = "AND" ∨ word = "OR")
    (follows : wordFollow word = some (.binary op L.bound)) (second : StandsAs M us b)
    (ceiling : L.ceiling = L.bound + 1) (bound : M.bound = L.bound + 1)
    (above : L.ceiling ≤ M.ceiling) : StandsAs L (ts ++ t :: us) (.binary op a b) := by
  intro fuel level rest le ends stops fueled
  simp only [List.length_append, List.length_cons] at fueled ⊢
  have weaker : (Follow.binary op L.bound).strength < L.ceiling := by
    rw [ceiling]
    exact Nat.lt_succ_self L.bound
  have other : word ≠ "ESCAPE" := by
    rcases known with rfl | rfl <;> decide
  have between : Ends (t :: (us ++ rest)) := by
    rcases known with rfl | rfl
    · exact .inl isWord
    · exact .inr (.inl isWord)
  obtain ⟨left, enough, read⟩ := first le between
    (stops_word isWord other follows weaker (us ++ rest)) (show 4 * ts.length + 4 ≤ fuel by omega)
  obtain ⟨left, rfl⟩ := Nat.exists_eq_add_of_le' (show 1 ≤ left by omega)
  obtain ⟨left', enough', read'⟩ := second (Nat.le_of_eq bound.symm) ends (stops.mono above)
    (show 4 * us.length + 4 ≤ left by omega)
  have behind : readFollows left' (L.bound + 1) b rest = .ok (b, rest) :=
    readFollows_of_stops (by omega) (ceiling ▸ stops)
  rw [behind] at read'
  refine ⟨left, by omega, ?_⟩
  rw [List.append_assoc, List.cons_append, read,
    readFollows_binary ((follow?_of_isWord isWord).trans follows) le]
  exact congrArg (· >>= _) read'

end StandsAs

/-- Conditions with `AND` between them. -/
inductive Conjoins : List Token → Expr → Prop where
  | one {ts : List Token} {e : Expr} : StandsAs .term ts e → Conjoins ts e
  | and {word : Token} {ts us : List Token} {a b : Expr} : Conjoins ts a →
      word.isWord "AND" = true → StandsAs .term us b →
      Conjoins (ts ++ word :: us) (.binary .and a b)

/-- Alternatives with `OR` between them, each of them conditions with `AND` between them. -/
inductive Alternates : List Token → List Expr → Prop where
  | last {ts : List Token} {e : Expr} : Conjoins ts e → Alternates ts [e]
  | more {word : Token} {ts us : List Token} {e : Expr} {es : List Expr} : Conjoins ts e →
      word.isWord "OR" = true → Alternates us es → Alternates (ts ++ word :: us) (e :: es)

/-- Some expressions have some truths in a row. -/
abbrev TruthsOf (names : Names) (env : Env) : List Expr → List (Option Bool) → Prop :=
  List.Forall₂ fun e truth => e.truth? names env = some truth

/-- What is false adds nothing to a disjunction. -/
theorem Cell.or_false (x : Option Bool) : Cell.or x (some false) = x := by
  rcases x with _ | _ | _ <;> rfl

/-- The truth of a disjunction. -/
def anyOf (truths : List (Option Bool)) : Option Bool :=
  truths.foldr Cell.or (some false)

/-- The truths of the alternatives of two conditions with `AND` between them: it joins the last
alternative of the first condition with the first alternative of the second. -/
def splice : List (Option Bool) → List (Option Bool) → List (Option Bool)
  | [], truths => truths
  | [truth], [] => [truth]
  | [truth], other :: others => Cell.and truth other :: others
  | truth :: next :: truths, others => truth :: splice (next :: truths) others

/-- A disjunction is true exactly if one of its alternatives is. -/
theorem anyOf_eq_true {truths : List (Option Bool)} :
    anyOf truths = some true ↔ some true ∈ truths := by
  induction truths with
  | nil => decide
  | cons truth truths ih =>
    have step : anyOf (truth :: truths) = Cell.or truth (anyOf truths) := rfl
    rw [step, List.mem_cons, ← ih]
    generalize anyOf truths = rest
    rcases truth with _ | _ | _ <;> rcases rest with _ | _ | _ <;> decide

/-- Nothing is spliced to the last alternative. -/
theorem splice_nil (truths : List (Option Bool)) : splice truths [] = truths := by
  induction truths with
  | nil => rfl
  | cons truth truths ih =>
    cases truths with
    | nil => rfl
    | cons next truths => rw [splice, ih]

/-- Where two conditions are true, so are the spliced alternatives. -/
theorem mem_splice {truths others : List (Option Bool)} (first : some true ∈ truths)
    (second : some true ∈ others) : some true ∈ splice truths others := by
  induction truths, others using splice.induct with
  | case1 others => exact second
  | case2 truth => exact first
  | case3 truth other others =>
    obtain rfl := List.mem_singleton.1 first
    rw [splice]
    rcases List.mem_cons.1 second with rfl | among
    · exact List.mem_cons_self
    · exact List.mem_cons_of_mem _ among
  | case4 truth next truths others ih =>
    rw [splice]
    rcases List.mem_cons.1 first with rfl | among
    · exact List.mem_cons_self
    · exact List.mem_cons_of_mem _ (ih among second)

namespace Conjoins

variable {ts us : List Token} {word : Token} {a b e : Expr}

/-- Conditions with `AND` between them are an operand of a disjunction. -/
theorem standsAs (conjoins : Conjoins ts e) : StandsAs .conjunction ts e := by
  induction conjoins with
  | one stands => exact stands.mono (by decide) (by decide)
  | and _ isWord second first =>
    exact first.chain isWord (.inl rfl) rfl second (by decide) (by decide) (by decide)

/-- Conditions with `AND` between them, behind each other with `AND` between them, are such
conditions. -/
theorem join (first : Conjoins ts a) (isWord : word.isWord "AND" = true) (second : Conjoins us b) :
    ∃ e, Conjoins (ts ++ word :: us) e ∧
      ∀ names env, e.truth? names env = (Expr.binary .and a b).truth? names env := by
  induction second with
  | one stands => exact ⟨_, first.and isWord stands, fun _ _ => rfl⟩
  | @and word' vs ws c d _ isWord' stands ih =>
    obtain ⟨e, conjoins, same⟩ := ih
    have longer := conjoins.and isWord' stands
    rw [List.append_assoc, List.cons_append] at longer
    refine ⟨.binary .and e d, longer, fun names env => ?_⟩
    calc (Expr.binary .and e d).truth? names env
        = (Expr.binary .and (.binary .and a c) d).truth? names env := by
          rw [Expr.truth?_and, same, ← Expr.truth?_and]
      _ = (Expr.binary .and a (.binary .and c d)).truth? names env :=
          Expr.truth?_and_assoc a c d

end Conjoins

namespace Alternates

variable {ts us : List Token} {word : Token} {as bs es : List Expr} {a : Expr}

/-- Alternatives behind each other with `OR` between them are the alternatives of both. -/
theorem append (first : Alternates ts as) (isWord : word.isWord "OR" = true)
    (second : Alternates us bs) : Alternates (ts ++ word :: us) (as ++ bs) := by
  induction first with
  | last conjoins => exact .more conjoins isWord second
  | more conjoins isWord' _ ih =>
    rw [List.append_assoc, List.cons_append]
    exact .more conjoins isWord' ih

/-- Alternatives behind each other with `AND` between them have the spliced truths. -/
theorem splice (first : Alternates ts as) (isWord : word.isWord "AND" = true)
    (second : Alternates us bs) :
    ∃ cs, Alternates (ts ++ word :: us) cs ∧ ∀ names env truths others,
      TruthsOf names env as truths → TruthsOf names env bs others →
      TruthsOf names env cs (Sql.splice truths others) := by
  induction first with
  | @last ts a conjoins =>
    cases second with
    | @last _ b conjoins' =>
      obtain ⟨e, joined, same⟩ := conjoins.join isWord conjoins'
      refine ⟨[e], .last joined, fun names env truths others told told' => ?_⟩
      obtain ⟨x, _, first, none, rfl⟩ := List.forall₂_cons_left_iff.1 told
      obtain ⟨y, _, second, none', rfl⟩ := List.forall₂_cons_left_iff.1 told'
      cases none
      cases none'
      refine .cons ?_ .nil
      rw [same, Expr.truth?_and, first, second]
      rfl
    | @more word' _ _ b bs conjoins' isWord' more =>
      obtain ⟨e, joined, same⟩ := conjoins.join isWord conjoins'
      have longer := Alternates.more joined isWord' more
      rw [List.append_assoc, List.cons_append] at longer
      refine ⟨e :: bs, longer, fun names env truths others told told' => ?_⟩
      obtain ⟨x, _, first, none, rfl⟩ := List.forall₂_cons_left_iff.1 told
      obtain ⟨y, ys, second, rest, rfl⟩ := List.forall₂_cons_left_iff.1 told'
      cases none
      refine .cons ?_ rest
      rw [same, Expr.truth?_and, first, second]
      rfl
  | @more word' ts vs a as conjoins isWord' more ih =>
    obtain ⟨cs, joined, tells⟩ := ih
    have longer := Alternates.more conjoins isWord' joined
    rw [← List.cons_append, ← List.append_assoc] at longer
    refine ⟨a :: cs, longer, fun names env truths others told told' => ?_⟩
    obtain ⟨x, xs, first, rest, rfl⟩ := List.forall₂_cons_left_iff.1 told
    have behind := tells names env xs others rest told'
    cases rest with
    | nil => cases more
    | cons _ _ => exact .cons first behind

/-- Alternatives behind an expression with `OR` between them are an expression that is true if one of
them is. -/
theorem standsAs_behind (stands : StandsAs .disjunction ts a) (isWord : word.isWord "OR" = true)
    (alternates : Alternates us es) :
    ∃ e, StandsAs .disjunction (ts ++ word :: us) e ∧ ∀ names env x truths,
      a.truth? names env = some x → TruthsOf names env es truths →
      e.truth? names env = some (Cell.or x (anyOf truths)) := by
  have step : ∀ {vs : List Token} {b : Expr}, Conjoins vs b →
      StandsAs .disjunction (ts ++ word :: vs) (.binary .or a b) := fun conjoins =>
    stands.chain isWord (.inr rfl) rfl conjoins.standsAs (by decide) (by decide) (by decide)
  induction alternates generalizing ts word a with
  | @last vs b conjoins =>
    refine ⟨.binary .or a b, step conjoins, fun names env x truths first told => ?_⟩
    obtain ⟨y, _, second, none, rfl⟩ := List.forall₂_cons_left_iff.1 told
    cases none
    rw [Expr.truth?_or, first, second, anyOf, List.foldr_cons, List.foldr_nil, Cell.or_false]
    rfl
  | @more word' vs ws b bs conjoins isWord' _ ih =>
    obtain ⟨e, longer, truth⟩ := ih (step conjoins) isWord' fun conjoins' =>
      (step conjoins).chain isWord' (.inr rfl) rfl conjoins'.standsAs (by decide) (by decide)
        (by decide)
    rw [List.append_assoc, List.cons_append] at longer
    refine ⟨e, longer, fun names env x truths first told => ?_⟩
    obtain ⟨y, ys, second, rest, rfl⟩ := List.forall₂_cons_left_iff.1 told
    have both : (Expr.binary .or a b).truth? names env = some (Cell.or x y) := by
      rw [Expr.truth?_or, first, second]
      rfl
    rw [truth names env _ ys both rest, Cell.or_assoc]
    rfl

/-- Alternatives are an expression that is true if one of them is. -/
theorem standsAs (alternates : Alternates ts es) :
    ∃ e, StandsAs .disjunction ts e ∧ ∀ names env truths, TruthsOf names env es truths →
      e.truth? names env = some (anyOf truths) := by
  cases alternates with
  | @last _ a conjoins =>
    refine ⟨a, conjoins.standsAs.mono (by decide) (by decide), fun names env truths told => ?_⟩
    obtain ⟨x, _, first, none, rfl⟩ := List.forall₂_cons_left_iff.1 told
    cases none
    rw [first]
    rw [anyOf, List.foldr_cons, List.foldr_nil, Cell.or_false]
  | @more word' vs ws a as conjoins isWord more =>
    have first := conjoins.standsAs.mono (show Level.disjunction.bound ≤ _ by decide) (by decide)
    obtain ⟨e, longer, truth⟩ := standsAs_behind first isWord more
    refine ⟨e, longer, fun names env truths told => ?_⟩
    obtain ⟨x, xs, one, rest, rfl⟩ := List.forall₂_cons_left_iff.1 told
    exact truth names env x xs one rest

end Alternates

/-- Tokens are read as alternatives with `OR` between them, each by the operators that are stronger. -/
inductive ReadsAlternatives : List Token → List Expr → Prop where
  | last {fuel : Nat} {ts : List Token} {e : Expr} : readExpr fuel 2 ts = .ok (e, []) →
      ReadsAlternatives ts [e]
  | more {fuel : Nat} {word : Token} {ts us : List Token} {e : Expr} {es : List Expr} :
      readExpr fuel 2 ts = .ok (e, word :: us) → word.isWord "OR" = true →
      ReadsAlternatives us es → ReadsAlternatives ts (e :: es)

/-- Operators stop before a token that is none of them, or too weak. -/
theorem halted_of_readFollows {fuel level : Nat} {e f : Expr} {ts rest : List Token}
    (read : readFollows fuel level e ts = .ok (f, rest)) : Halted level rest := by
  rcases readFollows_split (Nat.le_refl level) fuel e ts with
    ⟨stop, failed, -⟩ | ⟨g, more, left, taken, halted, -⟩
  · rw [failed] at read
    cases read
  · rw [taken] at read
    obtain ⟨rfl, rfl⟩ := Prod.mk.inj (Except.ok.inj read)
    exact halted

/-- Expressions are read up to a token that is no operator, or too weak. -/
theorem halted_of_readExpr {fuel level : Nat} {e : Expr} {ts rest : List Token}
    (read : readExpr fuel level ts = .ok (e, rest)) : Halted level rest := by
  cases fuel with
  | zero =>
    rw [readExpr] at read
    cases read
  | succ fuel =>
    rw [readExpr] at read
    obtain ⟨⟨a, more⟩, -, follows⟩ := bind_eq_ok read
    exact halted_of_readFollows follows

/-- What is read by the operators of a level is read by the stronger ones among them first. -/
theorem readExpr_split {low high fuel : Nat} (le : low ≤ high) {ts rest : List Token} {e : Expr}
    (read : readExpr fuel low ts = .ok (e, rest)) :
    ∃ f more left, readExpr fuel high ts = .ok (f, more) ∧ Halted high more ∧
      readFollows left low f more = .ok (e, rest) := by
  cases fuel with
  | zero =>
    rw [readExpr] at read
    cases read
  | succ fuel =>
    rw [readExpr] at read
    obtain ⟨⟨a, behind⟩, operand, follows⟩ := bind_eq_ok read
    dsimp only at follows
    rcases readFollows_split le fuel a behind with
      ⟨stop, failed, -⟩ | ⟨f, more, left, taken, halted, -, -, -, goes⟩
    · rw [failed] at follows
      cases follows
    · refine ⟨f, more, left, ?_, halted, goes ▸ follows⟩
      rw [readExpr, operand]
      exact taken

/-- Behind what stronger operators take either nothing follows that joins conditions, or what joins
them does. -/
theorem joins_of_readFollows {fuel level : Nat} {e f : Expr} {t : Token} {ts rest : List Token}
    (halted : Halted 3 (t :: ts)) (read : readFollows fuel level e (t :: ts) = .ok (f, rest)) :
    (f = e ∧ rest = t :: ts) ∨ ∃ op strength less b more,
      ((t.isWord "AND" = true ∧ op = .and ∧ strength = 2) ∨
        (t.isWord "OR" = true ∧ op = .or ∧ strength = 1)) ∧
      level ≤ strength ∧ less < fuel ∧ readExpr less (strength + 1) ts = .ok (b, more) ∧
      readFollows less level (.binary op e b) more = .ok (f, rest) := by
  cases fuel with
  | zero =>
    rw [readFollows] at read
    cases read
  | succ fuel =>
    by_cases weak : ∀ follow, t.follow? = some follow → follow.strength < level
    · rw [readFollows_stop weak] at read
      obtain ⟨rfl, rfl⟩ := Prod.mk.inj (Except.ok.inj read)
      exact .inl ⟨rfl, rfl⟩
    · obtain ⟨follow, follows, strong⟩ : ∃ follow, t.follow? = some follow ∧
          level ≤ follow.strength := by
        simpa using weak
      have joins := joins_of_weak follows (halted t ts rfl follow follows)
      obtain ⟨op, strength, rfl, word⟩ : ∃ op strength, follow = .binary op strength ∧
          ((t.isWord "AND" = true ∧ op = .and ∧ strength = 2) ∨
            (t.isWord "OR" = true ∧ op = .or ∧ strength = 1)) := by
        rcases joins with ⟨isAnd, rfl⟩ | ⟨isOr, rfl⟩
        · exact ⟨_, _, rfl, .inl ⟨isAnd, rfl, rfl⟩⟩
        · exact ⟨_, _, rfl, .inr ⟨isOr, rfl, rfl⟩⟩
      rw [readFollows_binary follows strong] at read
      obtain ⟨⟨b, more⟩, taken, goes⟩ := bind_eq_ok read
      exact .inr ⟨op, strength, fuel, b, more, word, strong, Nat.lt_succ_self fuel, taken, goes⟩

/-- Where what joins conditions is read up to an end of conditions, reading starts at one. -/
theorem ends_of_readFollows {fuel level : Nat} {e f : Expr} {ts rest : List Token}
    (halted : Halted 3 ts) (read : readFollows fuel level e ts = .ok (f, rest)) (ends : Ends rest) :
    Ends ts := by
  cases ts with
  | nil => trivial
  | cons t ts =>
    rcases joins_of_readFollows halted read with ⟨-, same⟩ | ⟨_, _, _, _, _, word, _⟩
    · exact same ▸ ends
    · rcases word with ⟨isAnd, -⟩ | ⟨isOr, -⟩
      · exact .inl isAnd
      · exact .inr (.inl isOr)

/-- What is read of tokens carries elsewhere as conditions with `AND` between them. -/
def CarriesConjoined (P : Renumbering) (used : List Token) (e : Expr) : Prop :=
  ∀ used', List.Forall₂ (Matches P) used used' → ∃ f, Mirrors P e f ∧ Conjoins used' f

/-- Conditions that `AND` joins to conditions carry elsewhere with them. -/
theorem carriesConjoined_follows {P : Renumbering} {fuel : Nat} {used ts rest : List Token}
    {e f : Expr} (carries : CarriesConjoined P used e) (halted : Halted 3 ts)
    (read : readFollows fuel 2 e ts = .ok (f, rest)) (ends : Ends rest) :
    ∃ more, ts = more ++ rest ∧ CarriesConjoined P (used ++ more) f := by
  induction fuel using Nat.strongRecOn generalizing used ts e with
  | _ fuel ih =>
    have done : (f = e ∧ rest = ts) → ∃ more, ts = more ++ rest ∧
        CarriesConjoined P (used ++ more) f := by
      rintro ⟨rfl, rfl⟩
      exact ⟨[], rfl, by rwa [List.append_nil]⟩
    cases ts with
    | nil =>
      refine done ?_
      cases fuel with
      | zero => rw [readFollows] at read; cases read
      | succ fuel =>
        rw [readFollows] at read
        obtain ⟨rfl, rfl⟩ := Prod.mk.inj (Except.ok.inj read)
        exact ⟨rfl, rfl⟩
    | cons t ts =>
      rcases joins_of_readFollows halted read with stopped |
        ⟨op, strength, less, b, more, word, strong, smaller, taken, goes⟩
      · exact done stopped
      · have isOr : ¬ (t.isWord "OR" = true ∧ op = .or ∧ strength = 1) := by
          intro other
          omega
        obtain ⟨isAnd, rfl, rfl⟩ := word.resolve_right isOr
        have halted' := halted_of_readExpr taken
        obtain ⟨second, rfl, carries'⟩ :=
          standsAs_of_carries (P := P) taken (ends_of_readFollows halted' goes ends)
        have longer : CarriesConjoined P (used ++ t :: second) (.binary .and e b) := by
          intro used' matching
          obtain ⟨us, vs, rfl, first, others⟩ := forall₂_append matching
          cases others with
          | cons head others =>
            obtain ⟨e', mirrors, conjoins⟩ := carries us first
            obtain ⟨b', mirrors', stands⟩ := carries' _ others
            refine ⟨.binary .and e' b', mirrors.binary .and mirrors', .and conjoins ?_ stands⟩
            rw [isWord_congr head.lexeme, isAnd]
        obtain ⟨third, rfl, carries''⟩ := ih less smaller longer halted' goes
        refine ⟨t :: second ++ third, by simp, ?_⟩
        rwa [List.append_assoc] at carries''

/-- Conditions with `AND` between them carry elsewhere as such. -/
theorem carriesConjoined_of_readExpr (P : Renumbering) {fuel : Nat} {ts rest : List Token} {e : Expr}
    (read : readExpr fuel 2 ts = .ok (e, rest)) (ends : Ends rest) :
    ∃ used, ts = used ++ rest ∧ CarriesConjoined P used e := by
  obtain ⟨a, more, left, taken, halted, goes⟩ := readExpr_split (show 2 ≤ 3 by decide) read
  obtain ⟨first, rfl, carries⟩ :=
    standsAs_of_carries (P := P) taken (ends_of_readFollows halted goes ends)
  have alone : CarriesConjoined P first a := fun used' matching =>
    let ⟨f, mirrors, stands⟩ := carries used' matching
    ⟨f, mirrors, .one stands⟩
  obtain ⟨second, rfl, carries'⟩ := carriesConjoined_follows alone halted goes ends
  exact ⟨first ++ second, by simp, carries'⟩

/-- Tokens that are written the same match, the numbers of the marks among them counted from
anywhere. -/
theorem matches_of_numbered {P : Renumbering} {j k : Nat} {ts us : List Token}
    (same : us.map lexeme = ts.map lexeme) (first : Numbered j ts) (second : Numbered k us)
    (range : InRange us)
    (known : ∀ i, i < parameterCount (ts.map lexeme) → P (j + i + 1) (k + i + 1)) :
    List.Forall₂ (Matches P) ts us := by
  induction ts generalizing us j k with
  | nil =>
    obtain rfl := List.map_eq_nil_iff.1 same
    exact .nil
  | cons t ts ih =>
    obtain ⟨u, us, rfl, head, tail⟩ := List.map_eq_cons_iff.1 same
    have kind : u.kind = t.kind := kind_congr head
    obtain ⟨slot, range⟩ := inRange_cons.1 range
    by_cases parameter : t.kind = .parameter
    · have parameter' : u.kind = .parameter := kind.trans parameter
      simp only [Numbered, parameter, parameter', if_true] at first second
      simp only [List.map_cons, parameterCount_cons, lexeme, parameter, if_true] at known
      refine .cons ⟨head, fun _ => ⟨?_, slot parameter'⟩⟩ (ih tail first.2 second.2 range ?_)
      · rw [first.1, second.1]
        exact known 0 (by omega)
      · intro i less
        have next := known (i + 1) (by omega)
        rwa [← Nat.add_assoc, ← Nat.add_assoc, Nat.add_right_comm j, Nat.add_right_comm k] at next
    · have parameter' : u.kind ≠ .parameter := fun same => parameter (kind ▸ same)
      simp only [Numbered, parameter, parameter', if_false] at first second
      simp only [List.map_cons, parameterCount_cons, lexeme, parameter, if_false,
        Nat.zero_add] at known
      exact .cons ⟨head, fun same => absurd same parameter⟩ (ih tail first second range known)

/-- Alternatives carry elsewhere as such. -/
theorem ReadsAlternatives.carries {ts : List Token} {es : List Expr} (reads : ReadsAlternatives ts es)
    {P : Renumbering} {ts' : List Token} (matching : List.Forall₂ (Matches P) ts ts') :
    ∃ es', List.Forall₂ (Mirrors P) es es' ∧ Alternates ts' es' := by
  induction reads generalizing ts' with
  | @last fuel ts e read =>
    obtain ⟨used, rfl, carries⟩ := carriesConjoined_of_readExpr P read trivial
    rw [List.append_nil] at matching
    obtain ⟨f, mirrors, conjoins⟩ := carries ts' matching
    exact ⟨[f], .cons mirrors .nil, .last conjoins⟩
  | @more fuel word ts us e es read isWord _ ih =>
    obtain ⟨used, rfl, carries⟩ := carriesConjoined_of_readExpr P read (.inr (.inl isWord))
    obtain ⟨vs, ws, rfl, first, others⟩ := forall₂_append matching
    cases others with
    | cons head others =>
      obtain ⟨f, mirrors, conjoins⟩ := carries vs first
      obtain ⟨fs, mirrors', alternates⟩ := ih others
      refine ⟨f :: fs, .cons mirrors mirrors', .more conjoins ?_ alternates⟩
      rw [isWord_congr head.lexeme, isWord]

/-- An expression that is read is the disjunction of the alternatives that are read. -/
theorem alternatives_of_follows {fuel : Nat} {ts : List Token} {e f : Expr} (halted : Halted 2 ts)
    (read : readFollows fuel 0 e ts = .ok (f, [])) :
    (ts = [] ∧ f = e) ∨ ∃ word us es, ts = word :: us ∧ word.isWord "OR" = true ∧
      ReadsAlternatives us es ∧ ∀ names env truth, f.truth? names env = some truth →
        ∃ x truths, e.truth? names env = some x ∧ TruthsOf names env es truths ∧
          truth = Cell.or x (anyOf truths) := by
  induction fuel using Nat.strongRecOn generalizing ts e with
  | _ fuel ih =>
    cases ts with
    | nil =>
      cases fuel with
      | zero => rw [readFollows] at read; cases read
      | succ fuel =>
        rw [readFollows] at read
        exact .inl ⟨rfl, (Prod.mk.inj (Except.ok.inj read)).1.symm⟩
    | cons t us =>
      have weaker : Halted 3 (t :: us) := fun u rest same follow follows =>
        Nat.lt_succ_of_lt (halted u rest same follow follows)
      rcases joins_of_readFollows weaker read with ⟨-, none⟩ |
        ⟨op, strength, less, b, more, word, -, smaller, taken, goes⟩
      · cases none
      · have isOr : t.isWord "OR" = true ∧ op = .or ∧ strength = 1 := by
          refine word.resolve_left ?_
          rintro ⟨isAnd, -, -⟩
          have weak := halted t us rfl _ (follow?_of_isWord isAnd)
          exact absurd weak (by decide)
        obtain ⟨isOr, rfl, rfl⟩ := isOr
        have joined : ∀ names env x, (Expr.binary .or e b).truth? names env = some x →
            ∃ y z, e.truth? names env = some y ∧ b.truth? names env = some z ∧
              x = Cell.or y z := by
          intro names env x told
          rw [Expr.truth?_or] at told
          obtain ⟨y, first, told⟩ := Option.bind_eq_some_iff.1 told
          obtain ⟨z, second, rfl⟩ := Option.map_eq_some_iff.1 told
          exact ⟨y, z, first, second, rfl⟩
        refine .inr ⟨t, us, ?_⟩
        rcases ih less smaller (halted_of_readExpr taken) goes with ⟨rfl, rfl⟩ |
          ⟨word', vs, es, rfl, isOr', reads, tells⟩
        · refine ⟨[b], rfl, isOr, .last taken, fun names env truth told => ?_⟩
          obtain ⟨y, z, first, second, rfl⟩ := joined names env truth told
          refine ⟨y, [z], first, .cons second .nil, ?_⟩
          rw [anyOf, List.foldr_cons, List.foldr_nil, Cell.or_false]
        · refine ⟨b :: es, rfl, isOr, .more taken isOr' reads, fun names env truth told => ?_⟩
          obtain ⟨x, truths, both, others, rfl⟩ := tells names env truth told
          obtain ⟨y, z, first, second, rfl⟩ := joined names env x both
          exact ⟨y, z :: truths, first, .cons second others, Cell.or_assoc y z _⟩

/-- An expression that is read to the end is true if one of its alternatives is. -/
theorem alternatives_of_readExpr {fuel : Nat} {ts : List Token} {e : Expr}
    (read : readExpr fuel 0 ts = .ok (e, [])) :
    ∃ es, ReadsAlternatives ts es ∧ ∀ names env truth, e.truth? names env = some truth →
      ∃ truths, TruthsOf names env es truths ∧ truth = anyOf truths := by
  obtain ⟨a, more, left, taken, halted, goes⟩ := readExpr_split (show 0 ≤ 2 by decide) read
  rcases alternatives_of_follows halted goes with ⟨rfl, rfl⟩ | ⟨word, us, es, rfl, isOr, reads, tells⟩
  · refine ⟨[e], .last taken, fun names env truth told => ⟨[truth], .cons told .nil, ?_⟩⟩
    rw [anyOf, List.foldr_cons, List.foldr_nil, Cell.or_false]
  · refine ⟨a :: es, .more taken isOr reads, fun names env truth told => ?_⟩
    obtain ⟨x, truths, first, others, rfl⟩ := tells names env truth told
    exact ⟨x :: truths, .cons first others, rfl⟩

end Registrar.Sql
