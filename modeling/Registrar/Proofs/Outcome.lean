import Registrar.Call

/-!
# Outcomes

What a computation that may fail comes to, step by step.  A call on a session yields a result and
the session after it; the lemmas below compute both for the steps that calls are made of, so that
what is proved about a call need not open the monads that it runs in.
-/

namespace Registrar

open Registrar.Sql (Store)

/-- A computation that does not fail has steps that do not. -/
theorem bind_eq_ok {ε α β : Type} {x : Except ε α} {f : α → Except ε β} {b : β}
    (done : x >>= f = .ok b) : ∃ a, x = .ok a ∧ f a = .ok b := by
  cases x with
  | error e => cases done
  | ok a => exact ⟨a, rfl, done⟩

/-- A step after one that fails is not taken. -/
theorem error_bind {ε α β : Type} {x : Except ε α} {f : α → Except ε β} (failed : ∃ e, x = .error e) :
    ∃ e, x >>= f = .error e := by
  obtain ⟨e, rfl⟩ := failed
  exact ⟨e, rfl⟩

/-- What a list is made of is filtered where it is tested without failing. -/
theorem filterM_map_eq_ok {ε α β : Type} {f : α → β} {test : β → Except ε Bool} {keep : α → Bool}
    {as : List α} (each : ∀ a ∈ as, test (f a) = .ok (keep a)) :
    (as.map f).filterM test = .ok ((as.filter keep).map f) := by
  have collected : ∀ kept,
      (as.map f).filterAuxM test kept = .ok (((as.filter keep).map f).reverse ++ kept) := by
    induction as with
    | nil => exact fun kept => rfl
    | cons a as ih =>
      intro kept
      have others := ih fun other mem => each other (List.mem_cons_of_mem a mem)
      simp only [List.map_cons, List.filterAuxM, each a List.mem_cons_self, bind, Except.bind, others]
      cases keeps : keep a <;> simp [keeps]
  simp only [List.filterM, collected, bind, Except.bind]
  simp [pure, Except.pure]

/-- A list is mapped where each of its elements is mapped without failing. -/
theorem mapM_eq_ok {ε α β : Type} {f : α → Except ε β} {g : α → β} {as : List α}
    (each : ∀ a ∈ as, f a = .ok (g a)) : as.mapM f = .ok (as.map g) := by
  induction as with
  | nil => rfl
  | cons a as ih =>
    have others := ih fun other mem => each other (List.mem_cons_of_mem a mem)
    simp only [List.mapM_cons, each a List.mem_cons_self, others]
    rfl

namespace Call

variable {α β : Type}

/-- What a call yields on a session: its result and the session after it. -/
def outcome (call : Call α) (session : Session) : Except Failure α × Session :=
  call.run session

/-- A call goes on from the session that its first step leaves, unless that step fails. -/
theorem outcome_bind (call : Call α) (next : α → Call β) (session : Session) :
    (call >>= next).outcome session =
      match call.outcome session with
      | (.ok a, after) => (next a).outcome after
      | (.error f, after) => (.error f, after) := by
  show (match call session with | (result, after) => ExceptT.bindCont next result after) = _
  unfold outcome ExceptT.run
  rcases call session with ⟨_ | a, after⟩
  · rfl
  · rfl

/-- A call goes on behind a step that succeeds. -/
theorem outcome_bind_of_ok {call : Call α} {next : α → Call β} {session after : Session} {a : α}
    (done : call.outcome session = (.ok a, after)) :
    (call >>= next).outcome session = (next a).outcome after := by
  rw [outcome_bind, done]

/-- A call ends at a step that fails. -/
theorem outcome_bind_of_error {call : Call α} {next : α → Call β} {session after : Session}
    {f : Failure} (failed : call.outcome session = (.error f, after)) :
    (call >>= next).outcome session = (.error f, after) := by
  rw [outcome_bind, failed]

/-- A call that succeeds has steps that do. -/
theorem of_outcome_bind {call : Call α} {next : α → Call β} {session after : Session} {b : β}
    (done : (call >>= next).outcome session = (.ok b, after)) :
    ∃ a middle, call.outcome session = (.ok a, middle) ∧ (next a).outcome middle = (.ok b, after) := by
  rw [outcome_bind] at done
  rcases first : call.outcome session with ⟨f | a, middle⟩
  · rw [first] at done
    cases (Prod.mk.inj done).1
  · rw [first] at done
    exact ⟨a, middle, rfl, done⟩

/-- What a call yields if it is known to succeed. -/
theorem outcome_of_toOption {call : Call α} {session : Session} {a : α}
    (done : (call.outcome session).1.toOption = some a) :
    call.outcome session = (.ok a, (call.outcome session).2) := by
  rcases yields : call.outcome session with ⟨f | b, after⟩
  · rw [yields] at done
    cases done
  · rw [yields] at done
    rw [Option.some.inj done]

/-- A result that is made of another leaves the session as that one does. -/
theorem outcome_map (f : α → β) (call : Call α) (session : Session) :
    (f <$> call).outcome session =
      ((call.outcome session).1.map f, (call.outcome session).2) := by
  rw [← bind_pure_comp, outcome_bind]
  rcases call.outcome session with ⟨_ | a, after⟩
  · rfl
  · rfl

/-- A result that is not needed leaves the session as it does. -/
theorem outcome_discard (call : Call α) (session : Session) :
    (discard call).outcome session =
      ((call.outcome session).1.map fun _ => (), (call.outcome session).2) := by
  have same : discard call = (fun _ => ()) <$> call := by
    rw [discard, map_const]
    rfl
  rw [same, outcome_map]

/-- What needs no session leaves it as it is. -/
theorem outcome_lift (result : Except Failure α) (session : Session) :
    (lift result).outcome session = (result, session) := by
  cases result <;> rfl

/-- A step that fails is followed by what is done about the failure. -/
theorem outcome_tryCatch (call : Call α) (handle : Failure → Call α) (session : Session) :
    (tryCatch call handle).outcome session =
      match call.outcome session with
      | (.ok a, after) => (.ok a, after)
      | (.error f, after) => (handle f).outcome after := by
  have caught : (tryCatch call handle : Call α) = ExceptT.tryCatch call handle := rfl
  rw [caught, ExceptT.tryCatch]
  simp only [outcome, ExceptT.run, ExceptT.mk, bind, StateT.bind]
  rcases call session with ⟨_ | a, after⟩
  · rfl
  · rfl

/-- Looking at the store leaves the session as it is. -/
theorem outcome_store (session : Session) :
    store.outcome session = (.ok session.store, session) :=
  rfl

/-- The entry of a change in the log. -/
def entry (statement : Statement) : LogEntry :=
  ⟨false, statement.text, statement.parameters.length⟩

/-- A change is logged, and yields what it does to the store. -/
theorem outcome_change (statement : Statement) (session : Session) :
    (change statement).outcome session =
      ((changeOn session.store statement).1.mapError .storage,
        ⟨(changeOn session.store statement).2, entry statement :: session.log⟩) := by
  have noted : (note false statement).outcome session =
      (.ok (), { session with log := entry statement :: session.log }) := rfl
  simp only [change, outcome_bind, noted, outcome_store]
  rcases changeOn session.store statement with ⟨_ | n, after⟩
  · rfl
  · rfl

/-- The entry of a question in the log. -/
def asked (statement : Statement) : LogEntry :=
  ⟨true, statement.text, statement.parameters.length⟩

end Call

/-- The session after a statement has been asked. -/
def Session.afterAsking (session : Session) (statement : Statement) : Session :=
  { session with log := Call.asked statement :: session.log }

namespace Sql.Store

/-- A statement that is found meaningful has been read. -/
theorem of_ready {store : Store} {sql : String} {found : Ready} {action : Action}
    (means : store.ready sql = .ok found) (acts : found.action = some action) :
    ∃ parsed statement, parse sql = .ok parsed ∧ parsed.statement = some statement ∧
      store.prepare parsed.source statement = .ok action := by
  unfold ready at means
  split at means
  · cases means
  · next parsed read =>
    split at means
    · rw [← Except.ok.inj means] at acts
      cases acts
    · next statement here =>
      split at means
      · cases means
      · next other prepared =>
        rw [← Except.ok.inj means] at acts
        obtain rfl := Option.some.inj acts
        exact ⟨parsed, statement, read, here, prepared⟩

/-- A statement that is run yields what it comes to. -/
theorem run_of_runReady {s : Store} {action : Action} {sql : String} {parameters : List Cell}
    {result : Answer × Store} (done : s.runReady sql parameters action = .ok result) :
    s.run parameters action = .ok result := by
  unfold runReady at done
  split at done
  · next ran => rw [ran, Except.ok.inj done]
  · cases done

end Sql.Store

namespace Call

variable {α β : Type}

/-- A statement is logged, and yields the rows of its answer. -/
theorem outcome_query (statement : Statement) (session : Session) :
    (query statement).outcome session =
      match runOn session.store statement with
      | .error fault => (.error (.storage fault), ⟨session.store, asked statement :: session.log⟩)
      | .ok (answer, after) => (.ok (Row.ofAnswer answer), ⟨after, asked statement :: session.log⟩) := by
  have noted : (note true statement).outcome session =
      (.ok (), { session with log := asked statement :: session.log }) := rfl
  simp only [query, outcome_bind, noted, outcome_store]
  rcases runOn session.store statement with _ | ⟨answer, after⟩
  · rfl
  · rfl

/-- A question fails where its statement cannot be built, else it is queried. -/
theorem outcome_select (question : Question) (session : Session) :
    (select question).outcome session =
      match question.statement with
      | .ok statement => (query statement).outcome session
      | .error f => (.error f, session) := by
  rw [select, outcome_bind, outcome_lift]
  cases question.statement <;> rfl

/-- A statement is carried out as the action that it means. -/
theorem runOn_of_parse {store : Store} {text : String} {statement : Sql.Statement} {n : Nat}
    {action : Sql.Action} {parameters : List Value} {cells : List Sql.Cell}
    (read : Sql.parse text = .ok ⟨some statement, n, text, []⟩)
    (means : store.prepare text statement = .ok action)
    (bound : bindValues n parameters = .ok cells) :
    runOn store ⟨text, parameters⟩ =
      match store.runReady text cells action with
      | .ok result => .ok result
      | .error e => .error (.statement e) := by
  have prepared : store.ready text = .ok ⟨some action, n, String.ofList []⟩ := by
    simp only [Store.ready, read, means]
  have isReady : ready store ⟨text, parameters⟩ = .ok (action, cells) := by
    simp only [ready, prepared, bound, bind, Except.bind]
  rw [runOn, isReady]
  rfl

/-- A question that is planned and answered yields the rows of the answer, and changes nothing. -/
theorem outcome_select_of_run {session : Session} {question : Question} {text : String}
    {parameters : List Value} {query : Sql.Select} {n : Nat} {plan : Sql.Plan}
    {cells : List Sql.Cell} {answer : Sql.Answer}
    (built : question.statement = .ok ⟨text, parameters⟩)
    (read : Sql.parse text = .ok ⟨some (.select query), n, text, []⟩)
    (planned : session.store.database.plan query = .ok plan)
    (bound : bindValues n parameters = .ok cells)
    (answers : plan.run (session.store.env cells) = .ok answer) :
    (select question).outcome session =
      (.ok (Row.ofAnswer answer), session.afterAsking ⟨text, parameters⟩) := by
  have means : session.store.prepare text (.select query) = .ok (.select plan) := by
    simp only [Store.prepare, planned, bind, Except.bind]
  have ran : runOn session.store ⟨text, parameters⟩ = .ok (answer, session.store) := by
    rw [runOn_of_parse read means bound]
    simp only [Store.runReady, Store.run, answers, bind, Except.bind]
  rw [outcome_select, built]
  simp only [outcome_query, ran, Session.afterAsking]

/-- A question that cannot be planned fails, and changes nothing. -/
theorem outcome_select_of_unplanned {session : Session} {question : Question} {text : String}
    {parameters : List Value} {query : Sql.Select} {n : Nat} {fault : Sql.Fault}
    (built : question.statement = .ok ⟨text, parameters⟩)
    (read : Sql.parse text = .ok ⟨some (.select query), n, text, []⟩)
    (refused : session.store.database.plan query = .error fault) :
    (select question).outcome session =
      (.error (.storage (.statement (fault.seenIn text))), session.afterAsking ⟨text, parameters⟩) := by
  have means : session.store.prepare text (.select query) = .error fault := by
    simp only [Store.prepare, refused, bind, Except.bind]
  have failed : runOn session.store ⟨text, parameters⟩ =
      .error (.statement (fault.seenIn text)) := by
    simp only [runOn, ready, Store.ready, read, means, bind, Except.bind]
  rw [outcome_select, built]
  simp only [outcome_query, failed, Session.afterAsking]

/-- A statement that is carried out has been read. -/
theorem parse_of_runOn {store : Store} {statement : Statement} {result : Sql.Answer × Store}
    (ran : runOn store statement = .ok result) : ∃ parsed, Sql.parse statement.text = .ok parsed := by
  obtain ⟨found, isReady, -⟩ := bind_eq_ok ran
  unfold ready Store.ready at isReady
  cases read : Sql.parse statement.text with
  | ok parsed => exact ⟨parsed, rfl⟩
  | error fault =>
    rw [read] at isReady
    cases isReady

/-- A statement that is carried out means something, and its parameters are bound. -/
theorem of_runOn {store after : Store} {text : String} {statement : Sql.Statement} {n : Nat}
    {parameters : List Value} {answer : Sql.Answer}
    (read : Sql.parse text = .ok ⟨some statement, n, text, []⟩)
    (done : runOn store ⟨text, parameters⟩ = .ok (answer, after)) :
    ∃ action cells, store.prepare text statement = .ok action ∧
      bindValues n parameters = .ok cells ∧ store.run cells action = .ok (answer, after) := by
  unfold runOn ready Store.ready at done
  rw [read] at done
  dsimp only at done
  cases means : store.prepare text statement with
  | error fault =>
    rw [means] at done
    cases done
  | ok action =>
    rw [means] at done
    dsimp only at done
    obtain ⟨found, prepared, done⟩ := bind_eq_ok done
    obtain ⟨cells, bound, same⟩ := bind_eq_ok prepared
    obtain rfl := Except.ok.inj same
    refine ⟨action, cells, rfl, bound, ?_⟩
    dsimp only [Store.runReady] at done
    cases ran : store.run cells action with
    | error problem =>
      rw [ran] at done
      cases done
    | ok result =>
      rw [ran] at done
      exact congrArg Except.ok (Except.ok.inj done)

end Call

end Registrar
