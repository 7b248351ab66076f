import Registrar.Proofs.Accounts.Enrolling
import Registrar.Proofs.Leading

/-!
# The wording of questions about users

Whoever logs in, registers or looks a user up gives a name, and the name is all that these calls take
over from it: a name in its normal form is bound to the mark of a question whose text is fixed, and what
has no normal form is refused before anything is run.
-/

namespace Registrar

open Registrar.Text Registrar.Number

namespace Call

variable {α β : Type} {statement : Statement}

/-- Whether nothing is asked from one session to another: what is logged between them are changes. -/
def Unasked (before after : Session) : Prop :=
  ∃ new, after.log = new ++ before.log ∧ ∀ entry ∈ new, entry.isQuery = false

instance : IsPreorder Session Unasked where
  refl _ := ⟨[], rfl, nofun⟩
  trans a b c first second := by
    obtain ⟨new, log, changes⟩ := first
    obtain ⟨more, log', changes'⟩ := second
    refine ⟨more ++ new, by rw [log', log, List.append_assoc], fun entry mem => ?_⟩
    exact (List.mem_append.1 mem).elim (changes' entry) (changes entry)

/-- A change asks nothing. -/
theorem unasked_change (statement : Statement) : Leads Unasked (change statement) := by
  intro session
  rw [outcome_change]
  exact ⟨[entry statement], rfl, fun e mem => by rw [List.mem_singleton.1 mem]; rfl⟩

/-- A call begins with a question, and asks nothing behind it. -/
def Asks (statement : Statement) (call : Call α) : Prop :=
  ∃ next : List Row → Call α, call = query statement >>= next ∧ ∀ rows, Leads Unasked (next rows)

namespace Asks

/-- A question asks its statement. -/
theorem select {question : Question} (built : question.statement = .ok statement)
    {next : List Row → Call α} (unasked : ∀ rows, Leads Unasked (next rows)) :
    Asks statement (select question >>= next) := by
  refine ⟨next, ?_, unasked⟩
  rw [Call.select, built]
  exact congrArg (· >>= next) (pure_bind statement query)

/-- What asks nothing may stand behind a question. -/
theorem bind {call : Call α} (asks : Asks statement call) {next : α → Call β}
    (unasked : ∀ a, Leads Unasked (next a)) : Asks statement (call >>= next) := by
  obtain ⟨first, rfl, before⟩ := asks
  exact ⟨fun rows => first rows >>= next, bind_assoc _ _ _, fun rows => (before rows).bind unasked⟩

end Asks

/-- Two calls ask questions of one text, and each binds its own name to the mark. -/
def AskAlike (name other : String) (call call' : Call α) : Prop :=
  ∃ text, Asks ⟨text, [.text name]⟩ call ∧ Asks ⟨text, [.text other]⟩ call'

end Call

open Call

namespace Accounts

variable {given name secret password : String} {hasher : Hasher}

/-- Looking a user up asks for the row of the name. -/
theorem asks_userByName (normal : normalizeUsername given = .ok name) :
    Asks ⟨nameText, [.text name]⟩ (userByName given) := by
  have looks : userByName given = userOfNormal name := by
    rw [userByName, normal]
    exact pure_bind name userOfNormal
  rw [looks]
  refine .select (statement_questionForName (isUsername_of_normalize normal)) fun rows => ?_
  cases rows with
  | nil => exact .lift (.error (.noUser name))
  | cons row rows => exact .lift _

/-- Asking whether a name in its normal form is taken asks for the rows of the name. -/
theorem asks_isTaken (valid : isUsername name = true) :
    Asks ⟨takenText, [.text name]⟩ (isTaken name) :=
  .select (statement_questionForTaken valid) fun _ => .known _

/-- Asking whether a name is taken asks for the rows of its normal form. -/
theorem asks_usernameExists (normal : normalizeUsername given = .ok name) :
    Asks ⟨takenText, [.text name]⟩ (usernameExists given) := by
  have looks : usernameExists given = isTaken name := by
    rw [usernameExists, normal]
    exact pure_bind name isTaken
  rw [looks]
  exact asks_isTaken (isUsername_of_normalize normal)

/-- Logging in asks for the row of the name. -/
theorem asks_authenticate (normal : normalizeUsername given = .ok name) (password : String) :
    Asks ⟨nameText, [.text name]⟩ (authenticate hasher given password) := by
  refine (asks_userByName normal).bind fun user => Leads.bind (.lift _) fun right => ?_
  cases right with
  | true => exact .known user
  | false => exact .lift (.error (.rejected .wrongPassword))

/-- Registering asks whether the name is taken, unless the password is blank. -/
theorem asks_register (found : candidate given password = .ok (name, secret)) :
    Asks ⟨takenText, [.text name]⟩ (register hasher given password) := by
  obtain ⟨normal, -⟩ := of_candidate found
  have goesOn : register hasher given password = (do
      if ← isTaken name then throw (.userExists name)
      else do
        let digest ← Call.lift (hash hasher secret)
        enroll (User.new name digest)) := by
    rw [register, found]
    exact pure_bind (name, secret) _
  rw [goesOn]
  refine (asks_isTaken (isUsername_of_normalize normal)).bind fun taken => ?_
  cases taken with
  | true => exact .lift (.error (.userExists name))
  | false => exact Leads.bind (.lift _) fun digest => .enroll unasked_change _

section Refusals

/-- What is no name is refused as such. -/
theorem invalid_of_normalize {f : Failure} (refused : normalizeUsername given = .error f) :
    Invalid (normalizeUsername given) := by
  refine ⟨f, ?_, refused⟩
  rw [normalizeUsername] at refused
  split at refused
  · cases refused
  · rw [← Except.error.inj refused]
    rfl

/-- Looking a user up is refused without a name. -/
theorem refuses_userByName (invalid : Invalid (normalizeUsername given)) :
    Refuses (userByName given) :=
  invalid.refuses userOfNormal

/-- Registering is refused without a name. -/
theorem refuses_register (invalid : Invalid (normalizeUsername given)) (password : String) :
    Refuses (register hasher given password) := by
  have refused : Invalid (candidate given password) := invalid.bind _
  exact refused.refuses _

/-- Registering is refused without a password. -/
theorem refuses_register_blank (normal : normalizeUsername given = .ok name)
    (blank : (trim password).isEmpty = true) : Refuses (register hasher given password) := by
  have found : candidate given password = .error (.rejected .noPassword) := by
    simp only [candidate, normal, blank, bind, Except.bind, if_true]
  have refused : Invalid (candidate given password) := ⟨_, rfl, found⟩
  exact refused.refuses _

end Refusals

/-- A name and a password that is not blank are enough to register. -/
theorem candidate_of_normalize (normal : normalizeUsername given = .ok name)
    (filled : (trim password).isEmpty = false) :
    candidate given password = .ok (name, trim password) := by
  simp only [candidate, normal, filled, bind, Except.bind, Bool.false_eq_true, if_false]

end Accounts

open Accounts

/-- No name changes a statement: as the value of a condition on the users, a name in its normal form
asks for the row of the name and is neither a number nor a condition of its own; what has no normal form
is refused with nothing run; and for any two names each call asks one and the same text, with the name
bound to its mark. -/
theorem names_are_only_bound (hasher : Hasher) :
    (∀ given name, normalizeUsername given = .ok name →
      (Condition.scalar (.text name)).clause "users" = .ok ⟨"users_val = ?", [.text name]⟩ ∧
      integerText? name = none ∧ hasComparator name = false) ∧
    (∀ given f, normalizeUsername given = .error f →
      Refuses (userByName given) ∧ Refuses (usernameExists given) ∧
      ∀ password, Refuses (authenticate hasher given password) ∧
        Refuses (register hasher given password)) ∧
    ∀ given given' name name', normalizeUsername given = .ok name →
      normalizeUsername given' = .ok name' →
      AskAlike name name' (userByName given) (userByName given') ∧
      AskAlike name name' (usernameExists given) (usernameExists given') ∧
      ∀ password password',
        AskAlike name name' (authenticate hasher given password)
          (authenticate hasher given' password') ∧
        ((trim password).isEmpty = true → Refuses (register hasher given password)) ∧
        ((trim password).isEmpty = false → (trim password').isEmpty = false →
          AskAlike name name' (register hasher given password) (register hasher given' password')) := by
  refine ⟨?clauses, ?refusals, ?questions⟩
  case clauses =>
    intro given name normal
    have valid := isUsername_of_normalize normal
    exact ⟨ofScalar_username valid "users", integerText?_username valid, hasComparator_username valid⟩
  case refusals =>
    intro given f refused
    have invalid := invalid_of_normalize refused
    exact ⟨refuses_userByName invalid, invalid.refuses isTaken,
      fun password => ⟨(refuses_userByName invalid).bind _, refuses_register invalid password⟩⟩
  case questions =>
    intro given given' name name' normal normal'
    refine ⟨⟨_, asks_userByName normal, asks_userByName normal'⟩,
      ⟨_, asks_usernameExists normal, asks_usernameExists normal'⟩, fun password password' => ?_⟩
    refine ⟨⟨_, asks_authenticate normal password, asks_authenticate normal' password'⟩,
      refuses_register_blank normal, fun filled filled' => ?_⟩
    exact ⟨_, asks_register (candidate_of_normalize normal filled),
      asks_register (candidate_of_normalize normal' filled')⟩

/-- Names with blanks and capitals are bound like any other, a number and a condition are refused. -/
theorem names_are_only_bound_picard :
    (Condition.scalar (.text "picard")).clause "users" = .ok ⟨"users_val = ?", [.text "picard"]⟩ ∧
      AskAlike "picard" "e5.-" (register marker " Picard " "engage") (register marker "E5.-" "data") ∧
      Refuses (authenticate marker "007" "bond") ∧
      Refuses (register marker "users_id = 1" "secret") := by
  have normal : normalizeUsername " Picard " = .ok "picard" := rfl
  have normal' : normalizeUsername "E5.-" = .ok "e5.-" := rfl
  have number : normalizeUsername "007" = .error (.rejected (.username "007")) := rfl
  have fragment : normalizeUsername "users_id = 1" =
      .error (.rejected (.username "users_id = 1")) := rfl
  obtain ⟨clauses, refusals, questions⟩ := names_are_only_bound marker
  obtain ⟨-, -, secrets⟩ := questions _ _ _ _ normal normal'
  exact ⟨(clauses _ _ normal).1, (secrets "engage" "data").2.2 rfl rfl,
    ((refusals _ _ number).2.2 "bond").1, ((refusals _ _ fragment).2.2 "secret").2⟩

end Registrar
