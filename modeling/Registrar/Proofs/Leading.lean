import Mathlib.Order.Defs.Unbundled
import Registrar.Accounts
import Registrar.Proofs.Outcome

/-!
# Where calls lead

A call leads from every session to the session after it, also where it fails.  What holds of two
sessions whenever nothing happens between them, and goes on to hold of what happens one after another,
holds of every call whose statements it holds of.
-/

namespace Registrar

namespace Call

variable {α β : Type} {R : Session → Session → Prop}

/-- A call leads from every session to one that is in a relation to it. -/
def Leads (R : Session → Session → Prop) (call : Call α) : Prop :=
  ∀ session, R session (call.outcome session).2

namespace Leads

variable [IsPreorder Session R]

/-- What needs no session leads nowhere. -/
theorem lift (result : Except Failure α) : Leads R (Call.lift result) := by
  intro session
  rw [outcome_lift]
  exact refl_of R session

/-- What is known leads nowhere. -/
theorem known (a : α) : Leads R (pure a : Call α) :=
  lift (.ok a)

/-- Looking at the store leads nowhere. -/
theorem store : Leads R Call.store :=
  fun session => refl_of R session

/-- Steps lead one after another. -/
theorem bind {call : Call α} {next : α → Call β} (first : Leads R call)
    (later : ∀ a, Leads R (next a)) : Leads R (call >>= next) := by
  intro session
  have middle := first session
  rw [outcome_bind]
  rcases outcome : call.outcome session with ⟨f | a, after⟩
  · rw [outcome] at middle
    exact middle
  · rw [outcome] at middle
    exact trans_of R middle (later a after)

omit [IsPreorder Session R] in
/-- A result that is not needed leads where it does. -/
theorem discarded {call : Call α} (first : Leads R call) : Leads R (discard call) := by
  intro session
  rw [outcome_discard]
  exact first session

/-- A step and what is done about its failure lead one after another. -/
theorem caught {call : Call α} {handle : Failure → Call α} (first : Leads R call)
    (later : ∀ f, Leads R (handle f)) : Leads R (tryCatch call handle) := by
  intro session
  have middle := first session
  rw [outcome_tryCatch]
  rcases outcome : call.outcome session with ⟨f | a, after⟩
  · rw [outcome] at middle
    exact trans_of R middle (later f after)
  · rw [outcome] at middle
    exact middle

/-- An insertion leads where its change does. -/
theorem insert (change : ∀ statement, Leads R (Call.change statement)) (table : String)
    (values : Entries Value) : Leads R (Call.insert table values) :=
  store.bind fun _ => (lift _).bind fun _ => (lift _).bind fun pairs =>
    (change (insertStatement table pairs)).discarded.bind fun _ => store.bind fun _ => known _

/-- Inserting a user leads where the change does. -/
theorem enroll (change : ∀ statement, Leads R (Call.change statement)) (user : User) :
    Leads R (Accounts.enroll user) := by
  have inserts := insert change User.recordType.table user.record.columnValues
  have enrolls := inserts.caught fun f => lift (.error (Accounts.refusal user.name f))
  exact enrolls.bind fun id => known _

end Leads

end Call

end Registrar
