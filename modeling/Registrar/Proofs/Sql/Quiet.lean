import Registrar.Proofs.Outcome

/-!
# Quiet expressions

Two functions tell what the connection remembers and not what is in the store: the id of the row
inserted last, and the number of rows that the last change changed.  An expression that calls neither
is quiet.  Its value is the same whatever the connection remembers, and the names in it stand for what
is quiet as well.
-/

namespace Registrar

/-- Small letters stay as they are. -/
theorem Text.lowerChar_lowerChar (c : Char) : lowerChar (lowerChar c) = lowerChar c := by
  by_cases capital : 'A' ≤ c ∧ c ≤ 'Z'
  · have inside : c.toNat ∈ List.range' 65 26 := by
      have low : 'A'.toNat ≤ c.toNat := capital.1
      have high : c.toNat ≤ 'Z'.toNat := capital.2
      have first : 'A'.toNat = 65 := rfl
      have last : 'Z'.toNat = 90 := rfl
      exact List.mem_range'_1.2 (by omega)
    have each : ∀ n ∈ List.range' 65 26,
        lowerChar (lowerChar (Char.ofNat n)) = lowerChar (Char.ofNat n) := by decide
    have again := each c.toNat inside
    rwa [Char.ofNat_toNat] at again
  · have same : lowerChar c = c := if_neg capital
    rw [same, same]

/-- A name in small letters stays as it is. -/
theorem Text.lowerAscii_lowerAscii (s : String) : lowerAscii (lowerAscii s) = lowerAscii s := by
  have chars : (lowerChar ∘ lowerChar) = lowerChar := funext lowerChar_lowerChar
  rw [lowerAscii, lowerAscii, mapChars, mapChars, String.toList_ofList, List.map_map, chars]

namespace Sql

open Registrar.Text

/-- The functions that tell what the connection remembers. -/
def reporters : List String :=
  ["last_insert_rowid", "changes"]

/-- The same row, on a connection that remembers another change. -/
def Env.recalling (env : Env) (lastId changes : Int64) : Env :=
  { env with lastId, changes }

mutual

/-- Whether an expression calls no function that tells what the connection remembers. -/
def Expr.quiet : Expr → Bool
  | .literal _ | .column _ _ _ _ | .slot _ _ _ | .parameter _ => true
  | .unary _ e | .cast e _ | .collate e _ => e.quiet
  | .binary _ a b => a.quiet && b.quiet
  | .between e low high => e.quiet && low.quiet && high.quiet
  | .member e items => e.quiet && Expr.allQuiet items
  | .pattern _ e shape escape => e.quiet && shape.quiet && Expr.quietOr escape
  | .call name arguments _ _ _ =>
    !reporters.contains (lowerAscii name) && Expr.allQuiet arguments
  | .aggregate _ arguments _ => Expr.allQuiet arguments
  | .choice subject branches otherwise =>
    Expr.quietOr subject && Expr.branchesQuiet branches && Expr.quietOr otherwise

/-- Whether several expressions are quiet. -/
def Expr.allQuiet : List Expr → Bool
  | [] => true
  | e :: es => e.quiet && Expr.allQuiet es

/-- Whether an expression is quiet, if there is one. -/
def Expr.quietOr : Option Expr → Bool
  | none => true
  | some e => e.quiet

/-- Whether the branches of a choice are quiet. -/
def Expr.branchesQuiet : List (Expr × Expr) → Bool
  | [] => true
  | (test, e) :: branches => test.quiet && e.quiet && Expr.branchesQuiet branches

end

namespace Expr

/-- Several expressions are quiet if each of them is. -/
theorem allQuiet_iff {es : List Expr} : allQuiet es = true ↔ ∀ e ∈ es, e.quiet = true := by
  induction es with
  | nil => simp [allQuiet]
  | cons e es ih => rw [allQuiet, Bool.and_eq_true, ih, List.forall_mem_cons]

/-- An expression that may be missing is quiet if it is quiet where it is there. -/
theorem quietOr_iff {e : Option Expr} : quietOr e = true ↔ ∀ f, e = some f → f.quiet = true := by
  cases e with
  | none => simp [quietOr]
  | some e => simp [quietOr]

/-- A function whose call is quiet tells nothing of what the connection remembers. -/
theorem report?_recalling (env : Env) (lastId changes : Int64) {name : String}
    (quiet : reporters.contains (lowerAscii name) = false) :
    (env.recalling lastId changes).report? name = env.report? name := by
  unfold Env.report?
  split
  · have told : reporters.contains (lowerAscii "last_insert_rowid") = true := by decide
    rw [told] at quiet
    cases quiet
  · have told : reporters.contains (lowerAscii "changes") = true := by decide
    rw [told] at quiet
    cases quiet
  · rfl

mutual

/-- The value of a quiet expression does not depend on what the connection remembers. -/
theorem eval_recalling (env : Env) (lastId changes : Int64) :
    ∀ e : Expr, e.quiet = true → e.eval (env.recalling lastId changes) = e.eval env
  | .literal _, _ => rfl
  | .column _ _ _ _, _ => rfl
  | .slot _ _ _, _ => rfl
  | .parameter _, _ => rfl
  | .unary op e, quiet => by
    have same := eval_recalling env lastId changes e quiet
    unfold Expr.eval
    split <;> simp_all
  | .binary op a b, quiet => by
    rw [Expr.quiet, Bool.and_eq_true] at quiet
    rw [Expr.eval, Expr.eval, eval_recalling env lastId changes a quiet.1,
      eval_recalling env lastId changes b quiet.2]
  | .between e low high, quiet => by
    rw [Expr.quiet, Bool.and_eq_true, Bool.and_eq_true] at quiet
    rw [Expr.eval, Expr.eval, eval_recalling env lastId changes e quiet.1.1,
      eval_recalling env lastId changes low quiet.1.2,
      eval_recalling env lastId changes high quiet.2]
  | .member e items, quiet => by
    rw [Expr.quiet, Bool.and_eq_true] at quiet
    rw [Expr.eval, Expr.eval, eval_recalling env lastId changes e quiet.1,
      evalAll_recalling env lastId changes items quiet.2]
  | .pattern kind e shape none, quiet => by
    rw [Expr.quiet, Bool.and_eq_true, Bool.and_eq_true] at quiet
    rw [Expr.eval, Expr.eval, eval_recalling env lastId changes e quiet.1.1,
      eval_recalling env lastId changes shape quiet.1.2]
  | .pattern kind e shape (some escape), quiet => by
    rw [Expr.quiet, Bool.and_eq_true, Bool.and_eq_true] at quiet
    rw [Expr.eval, Expr.eval, eval_recalling env lastId changes e quiet.1.1,
      eval_recalling env lastId changes shape quiet.1.2,
      eval_recalling env lastId changes escape quiet.2]
  | .call name arguments _ _ _, quiet => by
    rw [Expr.quiet, Bool.and_eq_true, Bool.not_eq_true'] at quiet
    rw [Expr.eval, Expr.eval, evalAll_recalling env lastId changes arguments quiet.2,
      report?_recalling env lastId changes quiet.1]
  | .aggregate function arguments distinct, quiet => by
    have rows : (fun cells => evalAll ((env.recalling lastId changes).ofRow cells) arguments) =
        fun cells => evalAll (env.ofRow cells) arguments :=
      funext fun cells => evalAll_recalling (env.ofRow cells) lastId changes arguments quiet
    rw [Expr.eval, Expr.eval, rows]
    rfl
  | .cast e _, quiet => by
    rw [Expr.eval, Expr.eval, eval_recalling env lastId changes e quiet]
  | .collate e _, quiet => by
    rw [Expr.eval, Expr.eval, eval_recalling env lastId changes e quiet]
  | .choice none branches otherwise, quiet => by
    rw [Expr.quiet, Bool.and_eq_true, Bool.and_eq_true] at quiet
    rw [Expr.eval, Expr.eval, chosen_recalling env lastId changes _ branches quiet.1.2,
      evalOr_recalling env lastId changes otherwise quiet.2]
  | .choice (some s) branches otherwise, quiet => by
    rw [Expr.quiet, Bool.and_eq_true, Bool.and_eq_true] at quiet
    have branch (passes : Cell → Bool) := chosen_recalling env lastId changes passes branches quiet.1.2
    rw [Expr.eval, Expr.eval, eval_recalling env lastId changes s quiet.1.1,
      evalOr_recalling env lastId changes otherwise quiet.2]
    simp only [branch]

/-- The values of quiet expressions do not depend on what the connection remembers. -/
theorem evalAll_recalling (env : Env) (lastId changes : Int64) :
    ∀ es : List Expr, allQuiet es = true → evalAll (env.recalling lastId changes) es = evalAll env es
  | [], _ => rfl
  | e :: es, quiet => by
    rw [allQuiet, Bool.and_eq_true] at quiet
    rw [evalAll, evalAll, eval_recalling env lastId changes e quiet.1,
      evalAll_recalling env lastId changes es quiet.2]

/-- The value of a quiet expression that may be missing does not depend on what the connection
remembers. -/
theorem evalOr_recalling (env : Env) (lastId changes : Int64) :
    ∀ e : Option Expr, quietOr e = true → evalOr (env.recalling lastId changes) e = evalOr env e
  | none, _ => rfl
  | some e, quiet => eval_recalling env lastId changes e quiet

/-- The branch that is chosen does not depend on what the connection remembers. -/
theorem chosen_recalling (env : Env) (lastId changes : Int64) (passes : Cell → Bool) :
    ∀ branches : List (Expr × Expr), branchesQuiet branches = true →
      chosen (env.recalling lastId changes) passes branches = chosen env passes branches
  | [], _ => rfl
  | (test, e) :: branches, quiet => by
    rw [branchesQuiet, Bool.and_eq_true, Bool.and_eq_true] at quiet
    rw [chosen, chosen, eval_recalling env lastId changes test quiet.1.1,
      eval_recalling env lastId changes e quiet.1.2,
      chosen_recalling env lastId changes passes branches quiet.2]

end

end Expr

/-- The outputs that names may stand for are quiet. -/
def Names.Quiet (names : Names) : Prop :=
  ∀ output ∈ names.outputs, output.2.quiet = true

namespace Names

variable {names : Names}

/-- The columns of a name are quiet. -/
theorem quiet_of_matches {area : Area} {qualified : Bool} {name : String} {e : Expr}
    (mem : e ∈ area.matches qualified name) : e.quiet = true := by
  obtain ⟨entry, -, shown⟩ := List.mem_filterMap.1 mem
  split at shown
  · rw [← Option.some.inj shown]
    rfl
  · cases shown

/-- What a name may be that is no column is quiet. -/
theorem quiet_of_otherName (quiet : names.Quiet) {name : String} {quoted : Bool} {e : Expr}
    (means : names.otherName name quoted = some e) : e.quiet = true := by
  unfold otherName at means
  split at means
  · next output found =>
    rw [← Option.some.inj means]
    exact quiet output (List.mem_of_find?_eq_some found)
  · split at means
    · rw [← Option.some.inj means]
      rfl
    · split at means
      · rw [← Option.some.inj means]
        rfl
      · split at means
        · rw [← Option.some.inj means]
          rfl
        · cases means

/-- What a name stands for is quiet. -/
theorem quiet_of_column (quiet : names.Quiet) {table : Option String} {name : String} {quoted : Bool}
    {place : Nat} {e : Expr} (means : names.column table name quoted place = .ok e) :
    e.quiet = true := by
  unfold column at means
  dsimp only at means
  split at means
  · next only found =>
    have among := List.mem_singleton_self only
    rw [← found] at among
    obtain ⟨area, -, mem⟩ := List.mem_flatMap.1 among
    rw [← Except.ok.inj means]
    exact quiet_of_matches mem
  · cases means
  · split at means
    · rw [← Except.ok.inj means]
      rfl
    · cases means
    · split at means
      · next here =>
        rw [← Except.ok.inj means]
        exact quiet_of_otherName quiet here
      · cases means

/-- What the name of a function stands for is quiet if the call is. -/
theorem quiet_of_function {name : String} {arguments : List Expr} {star distinct : Bool} {place : Nat}
    {e : Expr} (quiet : reporters.contains (lowerAscii name) = false)
    (given : Expr.allQuiet arguments = true)
    (means : names.function name arguments star distinct place = .ok e) : e.quiet = true := by
  unfold function at means
  dsimp only at means
  split at means
  · cases means
  · split at means
    · cases means
    · split at means
      · split at means
        · rw [← Except.ok.inj means]
          exact given
        · cases means
      · rw [← Except.ok.inj means, Expr.quiet, lowerAscii_lowerAscii, quiet]
        exact given

mutual

/-- The names in a quiet expression stand for what is quiet. -/
theorem quiet_of_resolve {names : Names} (outputs : names.Quiet) :
    ∀ e f : Expr, e.quiet = true → names.resolve e = .ok f → f.quiet = true
  | .literal _, f, _, means => by
    rw [← Except.ok.inj means]
    rfl
  | .column _ _ _ _, f, _, means => quiet_of_column outputs means
  | .slot _ _ _, f, _, means => by
    rw [← Except.ok.inj means]
    rfl
  | .parameter _, f, _, means => by
    rw [← Except.ok.inj means]
    rfl
  | .unary _ e, f, quiet, means => by
    obtain ⟨e', first, means⟩ := bind_eq_ok means
    rw [← Except.ok.inj means]
    exact quiet_of_resolve outputs e e' quiet first
  | .binary _ a b, f, quiet, means => by
    obtain ⟨a', first, means⟩ := bind_eq_ok means
    obtain ⟨b', second, means⟩ := bind_eq_ok means
    rw [Expr.quiet, Bool.and_eq_true] at quiet
    rw [← Except.ok.inj means, Expr.quiet, quiet_of_resolve outputs a a' quiet.1 first,
      quiet_of_resolve outputs b b' quiet.2 second]
    rfl
  | .between e low high, f, quiet, means => by
    obtain ⟨e', first, means⟩ := bind_eq_ok means
    obtain ⟨low', second, means⟩ := bind_eq_ok means
    obtain ⟨high', third, means⟩ := bind_eq_ok means
    rw [Expr.quiet, Bool.and_eq_true, Bool.and_eq_true] at quiet
    rw [← Except.ok.inj means, Expr.quiet, quiet_of_resolve outputs e e' quiet.1.1 first,
      quiet_of_resolve outputs low low' quiet.1.2 second,
      quiet_of_resolve outputs high high' quiet.2 third]
    rfl
  | .member e items, f, quiet, means => by
    obtain ⟨e', first, means⟩ := bind_eq_ok means
    obtain ⟨items', second, means⟩ := bind_eq_ok means
    rw [Expr.quiet, Bool.and_eq_true] at quiet
    rw [← Except.ok.inj means, Expr.quiet, quiet_of_resolve outputs e e' quiet.1 first,
      quiet_of_resolveAll outputs items items' quiet.2 second]
    rfl
  | .pattern _ e shape escape, f, quiet, means => by
    obtain ⟨e', first, means⟩ := bind_eq_ok means
    obtain ⟨shape', second, means⟩ := bind_eq_ok means
    obtain ⟨escape', third, means⟩ := bind_eq_ok means
    rw [Expr.quiet, Bool.and_eq_true, Bool.and_eq_true] at quiet
    rw [← Except.ok.inj means, Expr.quiet, quiet_of_resolve outputs e e' quiet.1.1 first,
      quiet_of_resolve outputs shape shape' quiet.1.2 second,
      quiet_of_resolveOption outputs escape escape' quiet.2 third]
    rfl
  | .call name arguments star _ _, f, quiet, means => by
    obtain ⟨arguments', inner, means⟩ := bind_eq_ok means
    rw [Expr.quiet, Bool.and_eq_true, Bool.not_eq_true'] at quiet
    have same : Names.Quiet (if (aggregate? (lowerAscii name) arguments.length star).isSome then
        { names with grouping := false } else names) := by
      split <;> exact outputs
    exact quiet_of_function quiet.1 (quiet_of_resolveAll same arguments arguments' quiet.2 inner) means
  | .aggregate _ arguments _, f, quiet, means => by
    obtain ⟨arguments', inner, means⟩ := bind_eq_ok means
    rw [← Except.ok.inj means]
    exact quiet_of_resolveAll outputs arguments arguments' quiet inner
  | .cast e _, f, quiet, means => by
    obtain ⟨e', first, means⟩ := bind_eq_ok means
    rw [← Except.ok.inj means]
    exact quiet_of_resolve outputs e e' quiet first
  | .collate e _, f, quiet, means => by
    obtain ⟨e', first, means⟩ := bind_eq_ok means
    rw [← Except.ok.inj means]
    exact quiet_of_resolve outputs e e' quiet first
  | .choice subject branches otherwise, f, quiet, means => by
    obtain ⟨subject', first, means⟩ := bind_eq_ok means
    obtain ⟨branches', second, means⟩ := bind_eq_ok means
    obtain ⟨otherwise', third, means⟩ := bind_eq_ok means
    rw [Expr.quiet, Bool.and_eq_true, Bool.and_eq_true] at quiet
    rw [← Except.ok.inj means, Expr.quiet,
      quiet_of_resolveOption outputs subject subject' quiet.1.1 first,
      quiet_of_resolveBranches outputs branches branches' quiet.1.2 second,
      quiet_of_resolveOption outputs otherwise otherwise' quiet.2 third]
    rfl

/-- The names in a quiet expression that may be missing stand for what is quiet. -/
theorem quiet_of_resolveOption {names : Names} (outputs : names.Quiet) :
    ∀ e f : Option Expr, Expr.quietOr e = true → names.resolveOption e = .ok f →
      Expr.quietOr f = true
  | none, f, _, means => by
    rw [← Except.ok.inj means]
    rfl
  | some e, f, quiet, means => by
    obtain ⟨e', first, means⟩ := bind_eq_ok means
    rw [← Except.ok.inj means]
    exact quiet_of_resolve outputs e e' quiet first

/-- The names in quiet expressions stand for what is quiet. -/
theorem quiet_of_resolveAll {names : Names} (outputs : names.Quiet) :
    ∀ es fs : List Expr, Expr.allQuiet es = true → names.resolveAll es = .ok fs →
      Expr.allQuiet fs = true
  | [], fs, _, means => by
    rw [← Except.ok.inj means]
    rfl
  | e :: es, fs, quiet, means => by
    obtain ⟨e', first, means⟩ := bind_eq_ok means
    obtain ⟨es', rest, means⟩ := bind_eq_ok means
    rw [Expr.allQuiet, Bool.and_eq_true] at quiet
    rw [← Except.ok.inj means, Expr.allQuiet, quiet_of_resolve outputs e e' quiet.1 first,
      quiet_of_resolveAll outputs es es' quiet.2 rest]
    rfl

/-- The names in the quiet branches of a choice stand for what is quiet. -/
theorem quiet_of_resolveBranches {names : Names} (outputs : names.Quiet) :
    ∀ branches others : List (Expr × Expr), Expr.branchesQuiet branches = true →
      names.resolveBranches branches = .ok others → Expr.branchesQuiet others = true
  | [], others, _, means => by
    rw [← Except.ok.inj means]
    rfl
  | (test, e) :: branches, others, quiet, means => by
    obtain ⟨test', first, means⟩ := bind_eq_ok means
    obtain ⟨e', second, means⟩ := bind_eq_ok means
    obtain ⟨branches', rest, means⟩ := bind_eq_ok means
    rw [Expr.branchesQuiet, Bool.and_eq_true, Bool.and_eq_true] at quiet
    rw [← Except.ok.inj means, Expr.branchesQuiet, quiet_of_resolve outputs test test' quiet.1.1 first,
      quiet_of_resolve outputs e e' quiet.1.2 second,
      quiet_of_resolveBranches outputs branches branches' quiet.2 rest]
    rfl

end

end Names

end Sql

end Registrar
