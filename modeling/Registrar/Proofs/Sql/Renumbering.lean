import Mathlib.Data.List.Forall2
import Registrar.Proofs.Sql.Comparison

/-!
# Expressions with other numbers

An expression keeps its value if its parameters are numbered differently and the cells are bound to
the new numbers.  `Echoes` says that of expressions whose names are resolved, `Mirrors` of
expressions as they are read, which may also name other places in their faults.  Both go through
everything that an expression is made of.
-/

namespace Registrar.Sql

/-- Which numbers of parameters stand for which others. -/
abbrev Renumbering := Nat → Nat → Prop

variable {P : Renumbering}

/-- The same row, with the cells of parameters bound to other numbers. -/
structure Env.Renumbered (P : Renumbering) (env env' : Env) : Prop where
  cells : env'.cells = env.cells
  group : env'.group = env.group
  lastId : env'.lastId = env.lastId
  changes : env'.changes = env.changes
  parameters : ∀ i j, P i j →
    (env'.parameters[j - 1]?).getD .null = (env.parameters[i - 1]?).getD .null

/-- Another row has the same numbers. -/
theorem Env.Renumbered.ofRow {env env' : Env} (renumbered : Renumbered P env env')
    (cells : List Cell) : Renumbered P (env.ofRow cells) (env'.ofRow cells) :=
  ⟨rfl, rfl, renumbered.lastId, renumbered.changes, renumbered.parameters⟩

/-- The outputs that a name may stand for do not depend on parameters. -/
def Names.IsSteady (names : Names) : Prop :=
  ∀ output ∈ names.outputs, ∀ (env : Env) (parameters : List Cell),
    output.2.eval { env with parameters } = output.2.eval env

/-- A resolved expression compares like another one and has its value where the numbers of its
parameters are bound. -/
structure Expr.Echoes (P : Renumbering) (e f : Expr) : Prop where
  affinity : f.affinity = e.affinity
  stated : f.statedCollation = e.statedCollation
  column : f.columnCollation = e.columnCollation
  /-- A sign before a number belongs to it. -/
  real : ∀ x, f = .literal (.real x) ↔ e = .literal (.real x)
  value : ∀ env env', Env.Renumbered P env env' → f.eval env' = e.eval env

/-- Two results are both faults, or both values of which something holds. -/
inductive Paired {α β : Type} (R : α → β → Prop) : Except Fault α → Except Fault β → Prop where
  | faults (f g : Fault) : Paired R (.error f) (.error g)
  | values {a : α} {b : β} : R a b → Paired R (.ok a) (.ok b)

/-- An expression means the like of another one, whatever its names stand for. -/
def Expr.Mirrors (P : Renumbering) (e f : Expr) : Prop :=
  ∀ names : Names, names.IsSteady → Paired (Echoes P) (names.resolve e) (names.resolve f)

/-- What is paired stays so through steps that keep it. -/
theorem Paired.bind {α β γ δ : Type} {R : α → β → Prop} {S : γ → δ → Prop} {x : Except Fault α}
    {y : Except Fault β} {f : α → Except Fault γ} {g : β → Except Fault δ} (paired : Paired R x y)
    (step : ∀ a b, R a b → Paired S (f a) (g b)) : Paired S (x >>= f) (y >>= g) := by
  cases paired with
  | faults f g => exact .faults f g
  | values related => exact step _ _ related

namespace Expr

/-- What holds of the parts of two branches of choices. -/
def Branches (R : Expr → Expr → Prop) (branch other : Expr × Expr) : Prop :=
  R branch.1 other.1 ∧ R branch.2 other.2

/-- Of expressions that are neither numbers nor bring a collation along, the affinity and the value
are left to compare. -/
theorem Echoes.plain {e f : Expr} (affinity : f.affinity = e.affinity)
    (stated : f.statedCollation = none ∧ e.statedCollation = none)
    (column : f.columnCollation = none ∧ e.columnCollation = none)
    (real : ∀ x, f ≠ .literal (.real x) ∧ e ≠ .literal (.real x))
    (value : ∀ env env', Env.Renumbered P env env' → f.eval env' = e.eval env) : Echoes P e f :=
  ⟨affinity, stated.1.trans stated.2.symm, column.1.trans column.2.symm,
    fun x => ⟨fun same => absurd same (real x).1, fun same => absurd same (real x).2⟩, value⟩

namespace Echoes

variable {a b c d e f g h : Expr}

/-- A constant is the same with any numbers. -/
theorem literal (cell : Cell) : Echoes P (.literal cell) (.literal cell) :=
  ⟨rfl, rfl, rfl, fun _ => Iff.rfl, fun _ _ _ => rfl⟩

/-- A cell of the row is the same with any numbers. -/
theorem slot (i : Nat) (affinity : Affinity) (collation : Collation) :
    Echoes P (.slot i affinity collation) (.slot i affinity collation) := by
  refine ⟨rfl, rfl, rfl, fun _ => Iff.rfl, ?_⟩
  intro env env' renumbered
  simp only [eval, renumbered.cells]

/-- A parameter is what is bound to its number. -/
theorem parameter {i j : Nat} (known : P i j) : Echoes P (.parameter i) (.parameter j) := by
  refine .plain rfl ⟨rfl, rfl⟩ ⟨rfl, rfl⟩ (by simp) ?_
  intro env env' renumbered
  simp only [eval, renumbered.parameters i j known]

/-- The value of an operation with one operand, unless it is the sign of a number. -/
theorem eval_unary (op : UnaryOp) (env : Env) {e : Expr} (other : ∀ x, e ≠ .literal (.real x)) :
    (Expr.unary op e).eval env = (e.eval env >>= fun a => .ok (Cell.unary op a)) := by
  cases op with
  | minus =>
    rw [eval]
    intro x _ same
    exact other x same
  | _ => rw [eval]; simp

/-- An operation with one operand. -/
theorem unary (op : UnaryOp) (echoes : Echoes P e f) :
    Echoes P (.unary op e) (.unary op f) := by
  refine ⟨rfl, ?_, ?_, by simp, ?_⟩
  · cases op <;> first | rfl | exact echoes.stated
  · cases op <;> first | rfl | exact echoes.column
  · intro env env' renumbered
    by_cases number : ∃ x, e = .literal (.real x)
    · obtain ⟨x, rfl⟩ := number
      rw [(echoes.real x).2 rfl]
      cases op <;> simp [eval]
    · have first : ∀ x, e ≠ .literal (.real x) := fun x same => number ⟨x, same⟩
      have second : ∀ x, f ≠ .literal (.real x) := fun x same => first x ((echoes.real x).1 same)
      rw [eval_unary op env first, eval_unary op env' second,
        echoes.value env env' renumbered]

/-- Two expressions are compared under the affinity of their like. -/
theorem comparisonAffinity (first : Echoes P a b) (second : Echoes P c d) :
    Expr.comparisonAffinity b d = Expr.comparisonAffinity a c := by
  simp only [Expr.comparisonAffinity, first.affinity, second.affinity]

/-- Two expressions are compared under the collation of their like. -/
theorem comparisonCollation (first : Echoes P a b) (second : Echoes P c d) :
    Expr.comparisonCollation b d = Expr.comparisonCollation a c := by
  simp only [Expr.comparisonCollation, first.stated, second.stated, first.column, second.column]

/-- An operation with two operands. -/
theorem binary (op : BinaryOp) (first : Echoes P a b) (second : Echoes P c d) :
    Echoes P (.binary op a c) (.binary op b d) := by
  refine .plain rfl ⟨rfl, rfl⟩ ⟨rfl, rfl⟩ (by simp) ?_
  intro env env' renumbered
  simp only [eval, first.value env env' renumbered, second.value env env' renumbered,
    first.comparisonAffinity second, first.comparisonCollation second]

/-- A test of an interval. -/
theorem between (test : Echoes P a b) (low : Echoes P c d) (high : Echoes P e f) :
    Echoes P (.between a c e) (.between b d f) := by
  refine .plain rfl ⟨rfl, rfl⟩ ⟨rfl, rfl⟩ (by simp) ?_
  intro env env' renumbered
  simp only [eval, test.value env env' renumbered, low.value env env' renumbered,
    high.value env env' renumbered, test.comparisonAffinity low, test.comparisonCollation low,
    test.comparisonAffinity high, test.comparisonCollation high]

/-- The values of several expressions. -/
theorem evalAll {es fs : List Expr} (echoes : List.Forall₂ (Echoes P) es fs) {env env' : Env}
    (renumbered : Env.Renumbered P env env') : Expr.evalAll env' fs = Expr.evalAll env es := by
  induction echoes with
  | nil => rfl
  | cons first _ ih => simp only [Expr.evalAll, first.value env env' renumbered, ih]

/-- The collation of the first of several expressions that has one. -/
theorem argumentCollation {es fs : List Expr} (echoes : List.Forall₂ (Echoes P) es fs) :
    Sql.argumentCollation fs = Sql.argumentCollation es := by
  have same : (fs.findSome? fun e => e.columnCollation) =
      es.findSome? fun e => e.columnCollation := by
    induction echoes with
    | nil => rfl
    | cons first _ ih => simp only [List.findSome?_cons, first.column, ih]
  rw [Sql.argumentCollation, Sql.argumentCollation, same]

/-- A test of membership. -/
theorem member {es fs : List Expr} (test : Echoes P a b) (items : List.Forall₂ (Echoes P) es fs) :
    Echoes P (.member a es) (.member b fs) := by
  refine .plain rfl ⟨rfl, rfl⟩ ⟨rfl, rfl⟩ (by simp) ?_
  intro env env' renumbered
  simp only [eval, test.value env env' renumbered, Echoes.evalAll items renumbered,
    test.affinity, test.column]

/-- A match with a pattern. -/
theorem pattern (kind : PatternKind) (text : Echoes P a b) (shape : Echoes P c d) :
    Echoes P (.pattern kind a c none) (.pattern kind b d none) := by
  refine .plain rfl ⟨rfl, rfl⟩ ⟨rfl, rfl⟩ (by simp) ?_
  intro env env' renumbered
  simp only [eval, text.value env env' renumbered, shape.value env env' renumbered]

/-- A match with a pattern in which something is escaped. -/
theorem escaped (kind : PatternKind) (text : Echoes P a b) (shape : Echoes P c d)
    (escape : Echoes P e f) :
    Echoes P (.pattern kind a c (some e)) (.pattern kind b d (some f)) := by
  refine .plain rfl ⟨rfl, rfl⟩ ⟨rfl, rfl⟩ (by simp) ?_
  intro env env' renumbered
  simp only [eval, text.value env env' renumbered, shape.value env env' renumbered,
    escape.value env env' renumbered]

/-- A function. -/
theorem call {es fs : List Expr} (arguments : List.Forall₂ (Echoes P) es fs) (name : String)
    (star distinct : Bool) (place other : Nat) :
    Echoes P (.call name es star distinct place) (.call name fs star distinct other) := by
  refine .plain rfl ⟨rfl, rfl⟩ ⟨rfl, rfl⟩ (by simp) ?_
  intro env env' renumbered
  have reports : env'.report? name = env.report? name := by
    simp only [Env.report?, renumbered.lastId, renumbered.changes]
  simp only [eval, Echoes.evalAll arguments renumbered, Echoes.argumentCollation arguments,
    reports]

/-- A function of a group. -/
theorem aggregate {es fs : List Expr} (arguments : List.Forall₂ (Echoes P) es fs)
    (function : Aggregate) (distinct : Bool) :
    Echoes P (.aggregate function es distinct) (.aggregate function fs distinct) := by
  refine .plain rfl ⟨rfl, rfl⟩ ⟨rfl, rfl⟩ (by simp) ?_
  intro env env' renumbered
  have rows : (fun cells => Expr.evalAll (env'.ofRow cells) fs) =
      fun cells => Expr.evalAll (env.ofRow cells) es :=
    funext fun cells => Echoes.evalAll arguments (renumbered.ofRow cells)
  simp only [eval, renumbered.group, rows, Echoes.argumentCollation arguments]

/-- A conversion. -/
theorem cast (echoes : Echoes P e f) (affinity : Affinity) :
    Echoes P (.cast e affinity) (.cast f affinity) := by
  refine ⟨rfl, rfl, echoes.column, by simp, ?_⟩
  intro env env' renumbered
  simp only [eval, echoes.value env env' renumbered]

/-- An expression with a collation. -/
theorem collate (echoes : Echoes P e f) (collation : Collation) :
    Echoes P (.collate e collation) (.collate f collation) := by
  refine ⟨echoes.affinity, rfl, rfl, by simp, ?_⟩
  intro env env' renumbered
  simp only [eval, echoes.value env env' renumbered]

/-- The value of the branch that is chosen. -/
theorem chosen {branches others : List (Expr × Expr)}
    (echoes : List.Forall₂ (Branches (Echoes P)) branches others) {env env' : Env}
    (renumbered : Env.Renumbered P env env') (passes : Cell → Bool) :
    Expr.chosen env' passes others = Expr.chosen env passes branches := by
  induction echoes with
  | nil => rfl
  | @cons branch other _ _ first _ ih =>
    obtain ⟨test, result⟩ := first
    simp only [Expr.chosen, test.value env env' renumbered, result.value env env' renumbered, ih]

/-- The value of an expression that may be missing. -/
theorem evalOr {x y : Option Expr} (echoes : Option.Rel (Echoes P) x y) {env env' : Env}
    (renumbered : Env.Renumbered P env env') : Expr.evalOr env' y = Expr.evalOr env x := by
  cases echoes with
  | none => rfl
  | some echoes => exact echoes.value env env' renumbered

/-- A choice. -/
theorem choice {subject subject' otherwise otherwise' : Option Expr}
    {branches others : List (Expr × Expr)} (first : Option.Rel (Echoes P) subject subject')
    (second : List.Forall₂ (Branches (Echoes P)) branches others)
    (third : Option.Rel (Echoes P) otherwise otherwise') :
    Echoes P (.choice subject branches otherwise) (.choice subject' others otherwise') := by
  refine .plain rfl ⟨rfl, rfl⟩ ⟨rfl, rfl⟩ (by simp) ?_
  intro env env' renumbered
  cases first with
  | none =>
    simp only [eval, Echoes.chosen second renumbered, Echoes.evalOr third renumbered]
  | some first =>
    simp only [eval, first.value env env' renumbered, first.affinity, first.column,
      Echoes.chosen second renumbered, Echoes.evalOr third renumbered]

end Echoes

/-- A column means the same with any numbers, wherever it stands. -/
theorem echoes_column {names : Names} (steady : names.IsSteady) {table : Option String}
    {name : String} {quoted : Bool} {place : Nat} {e : Expr}
    (found : names.column table name quoted place = .ok e) : Echoes P e e := by
  have slots : ∀ (area : Area) (qualified : Bool), ∀ e ∈ area.matches qualified name,
      Echoes P e e := by
    intro area qualified e mem
    obtain ⟨entry, -, found⟩ := List.mem_filterMap.1 mem
    split at found
    · rw [← Option.some.inj found]
      exact .slot _ _ _
    · cases found
  unfold Names.column at found
  dsimp only at found
  split at found
  · next only =>
    rw [← Except.ok.inj found]
    obtain ⟨area, -, mem⟩ := List.mem_flatMap.1 (only ▸ List.mem_singleton_self _)
    exact slots area _ _ mem
  · cases found
  · split at found
    · rw [← Except.ok.inj found]
      exact .slot _ _ _
    · cases found
    · split at found
      · next other =>
        rw [← Except.ok.inj found]
        unfold Names.otherName at other
        split at other
        · next output known =>
          rw [← Option.some.inj other]
          refine ⟨rfl, rfl, rfl, fun _ => Iff.rfl, ?_⟩
          intro env env' renumbered
          have same : env' = { env with parameters := env'.parameters } := by
            obtain ⟨cells, group, lastId, changes, -⟩ := renumbered
            cases env'
            cases env
            simp_all
          rw [same]
          exact steady output (List.mem_of_find?_eq_some known) env _
        · split at other
          · rw [← Option.some.inj other]
            exact .literal _
          · split at other
            · rw [← Option.some.inj other]
              exact .literal _
            · split at other
              · rw [← Option.some.inj other]
                exact .literal _
              · cases other
      · cases found

namespace Mirrors

variable {a b c d e f : Expr}

/-- A constant is a constant. -/
theorem literal (cell : Cell) : Mirrors P (.literal cell) (.literal cell) := by
  intro names _
  simp only [Names.resolve]
  exact .values (.literal cell)

/-- A parameter mirrors the one of its number. -/
theorem parameter {i j : Nat} (known : P i j) : Mirrors P (.parameter i) (.parameter j) := by
  intro names _
  simp only [Names.resolve]
  exact .values (.parameter known)

/-- A column mirrors itself in another place. -/
theorem column (table : Option String) (name : String) (quoted : Bool) (place other : Nat) :
    Mirrors P (.column table name quoted place) (.column table name quoted other) := by
  intro names steady
  simp only [Names.resolve]
  cases found : names.column table name quoted place with
  | ok e =>
    rw [column_of_place found other]
    exact .values (echoes_column steady found)
  | error fault =>
    cases found' : names.column table name quoted other with
    | ok e =>
      rw [column_of_place found' place] at found
      cases found
    | error fault' => exact .faults fault fault'

/-- An operation with one operand. -/
theorem unary (op : UnaryOp) (mirrors : Mirrors P e f) :
    Mirrors P (.unary op e) (.unary op f) := by
  intro names steady
  simp only [Names.resolve]
  exact (mirrors names steady).bind fun _ _ echoes => .values (echoes.unary op)

/-- An operation with two operands. -/
theorem binary (op : BinaryOp) (first : Mirrors P a b) (second : Mirrors P c d) :
    Mirrors P (.binary op a c) (.binary op b d) := by
  intro names steady
  simp only [Names.resolve]
  exact (first names steady).bind fun _ _ first => (second names steady).bind fun _ _ second =>
    .values (first.binary op second)

/-- A test of an interval. -/
theorem between (test : Mirrors P a b) (low : Mirrors P c d) (high : Mirrors P e f) :
    Mirrors P (.between a c e) (.between b d f) := by
  intro names steady
  simp only [Names.resolve]
  exact (test names steady).bind fun _ _ test => (low names steady).bind fun _ _ low =>
    (high names steady).bind fun _ _ high => .values (test.between low high)

/-- Several expressions mean the like of several others. -/
theorem all {es fs : List Expr} (mirrors : List.Forall₂ (Mirrors P) es fs) {names : Names}
    (steady : names.IsSteady) :
    Paired (List.Forall₂ (Echoes P)) (names.resolveAll es) (names.resolveAll fs) := by
  induction mirrors with
  | nil =>
    simp only [Names.resolveAll]
    exact .values .nil
  | cons first _ ih =>
    simp only [Names.resolveAll]
    exact (first names steady).bind fun _ _ first => ih.bind fun _ _ rest =>
      .values (.cons first rest)

/-- A test of membership. -/
theorem member {es fs : List Expr} (test : Mirrors P a b)
    (items : List.Forall₂ (Mirrors P) es fs) : Mirrors P (.member a es) (.member b fs) := by
  intro names steady
  simp only [Names.resolve]
  exact (test names steady).bind fun _ _ test => (all items steady).bind fun _ _ items =>
    .values (test.member items)

/-- A match with a pattern. -/
theorem pattern (kind : PatternKind) (text : Mirrors P a b) (shape : Mirrors P c d) :
    Mirrors P (.pattern kind a c none) (.pattern kind b d none) := by
  intro names steady
  simp only [Names.resolve, Names.resolveOption]
  exact (text names steady).bind fun _ _ text => (shape names steady).bind fun _ _ shape =>
    .values (text.pattern kind shape)

/-- A match with a pattern in which something is escaped. -/
theorem escaped (kind : PatternKind) (text : Mirrors P a b) (shape : Mirrors P c d)
    (escape : Mirrors P e f) :
    Mirrors P (.pattern kind a c (some e)) (.pattern kind b d (some f)) := by
  intro names steady
  simp only [Names.resolve, Names.resolveOption, bind_assoc]
  exact (text names steady).bind fun _ _ text => (shape names steady).bind fun _ _ shape =>
    (escape names steady).bind fun _ _ escape => .values (text.escaped kind shape escape)

/-- The meaning of a function's name, wherever it stands. -/
theorem function {es fs : List Expr} (arguments : List.Forall₂ (Echoes P) es fs) (names : Names)
    (name : String) (star distinct : Bool) (place other : Nat) :
    Paired (Echoes P) (names.function name es star distinct place)
      (names.function name fs star distinct other) := by
  unfold Names.function
  dsimp only
  rw [← arguments.length_eq]
  split
  · exact .faults _ _
  · split
    · exact .faults _ _
    · split
      · split
        · exact .values (.aggregate arguments _ _)
        · exact .faults _ _
      · exact .values (.call arguments _ _ _ _ _)

/-- A function. -/
theorem call {es fs : List Expr} (arguments : List.Forall₂ (Mirrors P) es fs) (name : String)
    (star distinct : Bool) (place other : Nat) :
    Mirrors P (.call name es star distinct place) (.call name fs star distinct other) := by
  intro names steady
  simp only [Names.resolve]
  rw [← arguments.length_eq]
  split
  · have inner : Names.IsSteady { names with grouping := false } := steady
    exact (all arguments inner).bind fun _ _ echoes => function echoes names name _ _ _ _
  · exact (all arguments steady).bind fun _ _ echoes => function echoes names name _ _ _ _

/-- A conversion. -/
theorem cast (mirrors : Mirrors P e f) (affinity : Affinity) :
    Mirrors P (.cast e affinity) (.cast f affinity) := by
  intro names steady
  simp only [Names.resolve]
  exact (mirrors names steady).bind fun _ _ echoes => .values (echoes.cast affinity)

/-- An expression with a collation. -/
theorem collate (mirrors : Mirrors P e f) (collation : Collation) :
    Mirrors P (.collate e collation) (.collate f collation) := by
  intro names steady
  simp only [Names.resolve]
  exact (mirrors names steady).bind fun _ _ echoes => .values (echoes.collate collation)

/-- An expression that may be missing. -/
theorem option {x y : Option Expr} (mirrors : Option.Rel (Mirrors P) x y) {names : Names}
    (steady : names.IsSteady) :
    Paired (Option.Rel (Echoes P)) (names.resolveOption x) (names.resolveOption y) := by
  cases mirrors with
  | none =>
    simp only [Names.resolveOption]
    exact .values .none
  | some mirrors =>
    simp only [Names.resolveOption]
    exact (mirrors names steady).bind fun _ _ echoes => .values (.some echoes)

/-- The branches of a choice. -/
theorem branches {branches others : List (Expr × Expr)}
    (mirrors : List.Forall₂ (Branches (Mirrors P)) branches others) {names : Names}
    (steady : names.IsSteady) :
    Paired (List.Forall₂ (Branches (Echoes P))) (names.resolveBranches branches)
      (names.resolveBranches others) := by
  induction mirrors with
  | nil =>
    simp only [Names.resolveBranches]
    exact .values .nil
  | @cons branch other _ _ first _ ih =>
    obtain ⟨test, result⟩ := first
    simp only [Names.resolveBranches]
    exact (test names steady).bind fun _ _ test => (result names steady).bind fun _ _ result =>
      ih.bind fun _ _ rest => .values (.cons ⟨test, result⟩ rest)

/-- A choice. -/
theorem choice {subject subject' otherwise otherwise' : Option Expr}
    {branches others : List (Expr × Expr)} (first : Option.Rel (Mirrors P) subject subject')
    (second : List.Forall₂ (Branches (Mirrors P)) branches others)
    (third : Option.Rel (Mirrors P) otherwise otherwise') :
    Mirrors P (.choice subject branches otherwise) (.choice subject' others otherwise') := by
  intro names steady
  simp only [Names.resolve]
  exact (option first steady).bind fun _ _ first =>
    (Mirrors.branches second steady).bind fun _ _ second =>
      (option third steady).bind fun _ _ third => .values (.choice first second third)

/-- A test that may be negated. -/
theorem negatedIf (negated : Bool) (mirrors : Mirrors P e f) :
    Mirrors P (Expr.negatedIf negated e) (Expr.negatedIf negated f) := by
  cases negated with
  | false => exact mirrors
  | true => exact mirrors.unary .not

/-- A test whether a value is true, or is false. -/
theorem truthTest (mirrors : Mirrors P e f) (wanted : Bool) :
    Mirrors P (e.truthTest wanted) (f.truthTest wanted) := by
  have one : Mirrors P (.literal (.integer 1)) (.literal (.integer 1)) := .literal _
  have zero : Mirrors P (.literal (.integer 0)) (.literal (.integer 0)) := .literal _
  cases wanted with
  | false =>
    exact .choice .none (.cons ⟨mirrors, zero⟩ (.cons ⟨mirrors.unary .isNull, zero⟩ .nil))
      (.some one)
  | true => exact .choice .none (.cons ⟨mirrors, one⟩ .nil) (.some zero)

/-- An expression is as true as its like, where the numbers of its parameters are bound. -/
theorem truth? (mirrors : Mirrors P e f) {names : Names} (steady : names.IsSteady) {env env' : Env}
    (renumbered : Env.Renumbered P env env') : f.truth? names env' = e.truth? names env := by
  have paired := mirrors names steady
  unfold Expr.truth?
  generalize names.resolve e = x at paired
  generalize names.resolve f = y at paired
  cases paired with
  | faults _ _ => rfl
  | values echoes => simp only [echoes.value env env' renumbered]

end Mirrors

end Expr

end Registrar.Sql
