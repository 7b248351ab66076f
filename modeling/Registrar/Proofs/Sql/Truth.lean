import Registrar.Proofs.Sql.Precedence
import Registrar.Sql.Evaluate
import Registrar.Sql.Names

/-!
# Truth of expressions

The truth of an expression for a row: its names are resolved, it is evaluated, and its value is
read as one of three truth values.  Negation, conjunction and disjunction compute that truth from
the truths of their operands, and a comparison computes it from the cell of its column and the
cells of its parameters.  Conjunction and disjunction are associative; on that rest
`Reads.conjoin` and `Reads.disjoin`, by which chains that stand behind each other are read as one
chain of the same truth.
-/

namespace Registrar.Sql

/-- The truth of an expression, none if its names mean nothing or it has no value. -/
def Expr.truth? (names : Names) (env : Env) (e : Expr) : Option (Option Bool) :=
  match names.resolve e with
  | .error _ => none
  | .ok resolved =>
    match resolved.eval env with
    | .error _ => none
    | .ok cell => some cell.truth

namespace Cell

/-- The truth of a match with a pattern: unknown if either side is nothing. -/
def matching (kind : PatternKind) (text shape : Cell) : Option Bool :=
  if shape.isNull || text.isNull then none
  else
    match kind with
    | .like => some (likeMatches none shape.asText.chars text.asText.chars)
    | .glob => some (globMatches shape.asText.chars text.asText.chars)

/-- The truth of a truth value's cell is that value. -/
@[simp] theorem truth_ofTruth (truth : Option Bool) : (ofTruth truth).truth = truth := by
  rcases truth with _ | _ | _ <;> rfl

/-- Matching without an escape yields its truth. -/
theorem matchesPattern_none (kind : PatternKind) (text shape : Cell) :
    matchesPattern kind shape text none = .ok (ofTruth (matching kind text shape)) := by
  unfold matchesPattern matching
  by_cases nothing : (shape.isNull || text.isNull) = true
  · simp [nothing, ofTruth]
  · cases kind <;> simp [nothing]

/-- Conjunction of three truth values is associative. -/
theorem and_assoc (a b c : Option Bool) :
    Cell.and (Cell.and a b) c = Cell.and a (Cell.and b c) := by
  rcases a with _ | _ | _ <;> rcases b with _ | _ | _ <;> rcases c with _ | _ | _ <;> rfl

/-- Disjunction of three truth values is associative. -/
theorem or_assoc (a b c : Option Bool) :
    Cell.or (Cell.or a b) c = Cell.or a (Cell.or b c) := by
  rcases a with _ | _ | _ <;> rcases b with _ | _ | _ <;> rcases c with _ | _ | _ <;> rfl

end Cell

namespace Expr

variable {names : Names} {env : Env}

/-- The truth of a negation. -/
theorem truth?_not (e : Expr) :
    (Expr.unary .not e).truth? names env = (e.truth? names env).map fun a => a.map (! ·) := by
  unfold truth?
  simp only [Names.resolve]
  cases names.resolve e with
  | error fault => rfl
  | ok r =>
    simp only [bind, Except.bind, Expr.eval]
    cases r.eval env with
    | error problem => rfl
    | ok cell => simp [Cell.unary]

/-- The truth of two joined expressions. -/
theorem truth?_join {op : BinaryOp} {connective : Option Bool → Option Bool → Option Bool}
    (joins : ∀ affinity collation x y, Cell.binary op affinity collation x y =
      Cell.ofTruth (connective x.truth y.truth)) (a b : Expr) :
    (Expr.binary op a b).truth? names env =
      (a.truth? names env).bind fun x => (b.truth? names env).map (connective x) := by
  unfold truth?
  simp only [Names.resolve]
  cases names.resolve a with
  | error fault => rfl
  | ok r =>
    cases names.resolve b with
    | error fault =>
      simp only [bind, Except.bind]
      cases r.eval env <;> rfl
    | ok s =>
      simp only [bind, Except.bind, Expr.eval]
      cases r.eval env with
      | error problem => rfl
      | ok x =>
        cases s.eval env with
        | error problem => rfl
        | ok y => simp [joins]

/-- The truth of a conjunction. -/
theorem truth?_and (a b : Expr) : (Expr.binary .and a b).truth? names env =
    (a.truth? names env).bind fun x => (b.truth? names env).map (Cell.and x) :=
  truth?_join (fun _ _ _ _ => rfl) a b

/-- The truth of a disjunction. -/
theorem truth?_or (a b : Expr) : (Expr.binary .or a b).truth? names env =
    (a.truth? names env).bind fun x => (b.truth? names env).map (Cell.or x) :=
  truth?_join (fun _ _ _ _ => rfl) a b

/-- Conjunctions may be grouped either way. -/
theorem truth?_and_assoc (a b c : Expr) :
    (Expr.binary .and (.binary .and a b) c).truth? names env =
      (Expr.binary .and a (.binary .and b c)).truth? names env := by
  simp only [truth?_and]
  cases a.truth? names env <;> cases b.truth? names env <;> cases c.truth? names env <;>
    simp [Cell.and_assoc]

/-- Disjunctions may be grouped either way. -/
theorem truth?_or_assoc (a b c : Expr) :
    (Expr.binary .or (.binary .or a b) c).truth? names env =
      (Expr.binary .or a (.binary .or b c)).truth? names env := by
  simp only [truth?_or]
  cases a.truth? names env <;> cases b.truth? names env <;> cases c.truth? names env <;>
    simp [Cell.or_assoc]

end Expr

/-- Conjunctions behind each other are one conjunction. -/
theorem Reads.conjoin {ts us : List Token} {word : Token} {a b : Expr}
    (first : Reads .conjunction ts a) (isWord : word.isWord "AND" = true)
    (second : Reads .conjunction us b) :
    ∃ e, Reads .conjunction (ts ++ word :: us) e ∧
      ∀ names env, e.truth? names env = (Expr.binary .and a b).truth? names env := by
  generalize level : Level.conjunction = L at second
  induction second with
  | single term => exact ⟨_, first.and isWord term, fun _ _ => rfl⟩
  | @and word' vs ws c d _ isWord' term ih _ =>
    obtain ⟨e, reads, same⟩ := ih rfl
    refine ⟨.binary .and e d, ?_, ?_⟩
    · have longer := reads.and isWord' term
      rwa [List.append_assoc, List.cons_append] at longer
    · intro names env
      calc (Expr.binary .and e d).truth? names env
          = (Expr.binary .and (.binary .and a c) d).truth? names env := by
            rw [Expr.truth?_and, same, ← Expr.truth?_and]
        _ = (Expr.binary .and a (.binary .and c d)).truth? names env :=
            Expr.truth?_and_assoc a c d
  | _ => cases level

/-- Disjunctions behind each other are one disjunction. -/
theorem Reads.disjoin {ts us : List Token} {word : Token} {a b : Expr}
    (first : Reads .disjunction ts a) (isWord : word.isWord "OR" = true)
    (second : Reads .disjunction us b) :
    ∃ e, Reads .disjunction (ts ++ word :: us) e ∧
      ∀ names env, e.truth? names env = (Expr.binary .or a b).truth? names env := by
  generalize level : Level.disjunction = L at second
  induction second with
  | conjoined operand => exact ⟨_, first.or isWord operand, fun _ _ => rfl⟩
  | @or word' vs ws c d _ isWord' operand ih _ =>
    obtain ⟨e, reads, same⟩ := ih rfl
    refine ⟨.binary .or e d, ?_, ?_⟩
    · have longer := reads.or isWord' operand
      rwa [List.append_assoc, List.cons_append] at longer
    · intro names env
      calc (Expr.binary .or e d).truth? names env
          = (Expr.binary .or (.binary .or a c) d).truth? names env := by
            rw [Expr.truth?_or, same, ← Expr.truth?_or]
        _ = (Expr.binary .or a (.binary .or c d)).truth? names env :=
            Expr.truth?_or_assoc a c d
  | _ => cases level

end Registrar.Sql
