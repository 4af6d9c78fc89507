/-
This file says what it is to follow a plan of statements. Each statement of a plan has a result, or
it is the one at which the action stops: then no later statement is attempted, and the failure
names the refused statement and what the server said of it. A plan may depend on results of earlier
statements, and an action that follows one plan and then another follows the two in a row.
-/

import DumpRestore.Proofs.Session.Conversation

namespace DumpRestore

/-! ### Answers in a session -/

/-- A server that never crashes: every request has a result or is refused. -/
def Server.IsCalm (server : Server) : Prop :=
  ∀ earlier request crash, server.respond earlier request ≠ .error (.crashed crash)

theorem Server.IsCalm.ask {server : Server} (calm : server.IsCalm) (earlier : List Request)
    (statement : Statement) (crash : Crash) :
    (server.ask earlier statement).1 ≠ .error (.crashed crash) := by
  obtain ⟨request, requests, _, answered⟩ := server.exists_ask earlier statement
  rw [← answered]
  exact calm requests request crash

theorem Server.length_askAll (server : Server) (earlier : List Request)
    (statements : List Statement) :
    (server.askAll earlier statements).1.length = statements.length := by
  induction statements generalizing earlier with
  | nil => rfl
  | cons statement statements inductionHypothesis =>
    rw [askAll_cons, List.length_cons, inductionHypothesis, List.length_cons]

/-- What a server would answer to statements that are asked next. -/
def Session.answers (session : Session) (server : Text) (statements : List Statement) :
    List (Except Failure ResultSet) :=
  ((session.servers server).askAll (session.received server) statements).1

theorem Asked.answers_append {connection : Connection} {first : List Statement}
    {before middle : Session} (asked : Asked connection first before middle)
    (second : List Statement) :
    before.answers connection.server (first ++ second) =
      before.answers connection.server first ++ middle.answers connection.server second := by
  unfold Session.answers
  rw [Server.askAll_append, asked.servers, asked.received, update_self]

namespace Connection

variable (connection : Connection) (statement : Statement) (session : Session)

/-- A statement that has a result was sent. -/
theorem statements_attempt_ok (result : ResultSet)
    (answered : ((session.servers connection.server).ask
      (session.received connection.server) statement).1 = .ok result) :
    (connection.attempt statement session).2.statements =
      session.statements ++ [(connection.server, statement)] := by
  rw [run_attempt, answered]
  show ((connection.given statement session).asked connection.server statement).statements = _
  unfold Server.ask at answered
  cases opened : (session.servers connection.server).respond (session.received connection.server)
      .openCursor with
  | error failure =>
    rw [opened] at answered
    cases answered
  | ok cursor =>
    have given : ((connection.given statement session).servers connection.server).respond
        ((connection.given statement session).received connection.server) .openCursor =
          .ok cursor := opened
    unfold Session.asked
    rw [given]
    rfl

end Connection

/-! ### Plans -/

/-- A statement of a plan, and the kind of the failure where the server refuses it. -/
structure Planned where
  statement : Statement
  kind : Text

/-- A failure names the statement that was refused and what the server said of it. -/
structure QueryFailure.Blames (failure : QueryFailure) (stopped : Planned) (error : ServerError) :
    Prop where
  kind : failure.kind = stopped.kind
  lastError : failure.lastError = some error.summary
  statement : failure.statement = some stopped.statement.sql

/-- All statements of a plan were sent, each of them once and in order, and have their results. -/
structure Completes (connection : Connection) (plan : List Planned) (results : List ResultSet)
    (before after : Session) : Prop
    extends Asked connection (plan.map Planned.statement) before after where
  answered : before.answers connection.server (plan.map Planned.statement) = results.map .ok
  sent : after.statements =
    before.statements ++ plan.map fun planned => (connection.server, planned.statement)

/-- The statements of a plan up to a refused one were asked, and those before it have their
results. -/
structure Stops (connection : Connection) (plan done : List Planned) (stopped : Planned)
    (results : List ResultSet) (error : ServerError) (before after : Session) : Prop
    extends Asked connection ((done ++ [stopped]).map Planned.statement) before after where
  within : done ++ [stopped] <+: plan
  answered : before.answers connection.server ((done ++ [stopped]).map Planned.statement) =
    results.map .ok ++ [.error (.refused error)]

/-- A run completes a plan and gives a value, or stops with a failure that blames the statement at
which it stops. -/
def ComesOut {Result : Type} (connection : Connection) (plan : List Planned)
    (results : List ResultSet) (value : Result) (before : Session)
    (run : Except Fault Result × Session) : Prop :=
  (Completes connection plan results before run.2 ∧ run.1 = .ok value) ∨
    ∃ done stopped error failure, Stops connection plan done stopped results error before run.2 ∧
      run.1 = .error (.queryFailed failure) ∧ failure.Blames stopped error

/-- An action follows a plan, which may depend on results, and computes its value from them. -/
def Follows {Result : Type} (connection : Connection) (server : Server)
    (plan : List ResultSet → List Planned) (value : List ResultSet → Result)
    (action : Action Result) : Prop :=
  ∀ session, session.servers connection.server = server → ∃ results,
    ComesOut connection (plan results) results (value results) session (action session)

section Composition

variable {connection : Connection}

theorem Completes.length_results {plan : List Planned} {results : List ResultSet}
    {before after : Session} (completes : Completes connection plan results before after) :
    results.length = plan.length := by
  have counted := congrArg List.length completes.answered
  unfold Session.answers at counted
  rwa [Server.length_askAll, List.length_map, List.length_map, eq_comm] at counted

/-- Nothing is planned and nothing happens. -/
theorem completes_nil {before after : Session} (asked : Asked connection [] before after)
    (sent : after.statements = before.statements) : Completes connection [] [] before after where
  toAsked := asked
  answered := rfl
  sent := by rw [sent, List.map_nil, List.append_nil]

theorem Completes.trans {first second : List Planned} {firstResults secondResults : List ResultSet}
    {before middle after : Session}
    (former : Completes connection first firstResults before middle)
    (latter : Completes connection second secondResults middle after) :
    Completes connection (first ++ second) (firstResults ++ secondResults) before after where
  toAsked := by
    rw [List.map_append]
    exact former.toAsked.trans latter.toAsked
  answered := by
    rw [List.map_append, former.toAsked.answers_append, former.answered, latter.answered,
      List.map_append]
  sent := by rw [latter.sent, former.sent, List.map_append, List.append_assoc]

theorem Completes.trans_stops {first second done : List Planned} {stopped : Planned}
    {firstResults secondResults : List ResultSet} {error : ServerError}
    {before middle after : Session}
    (former : Completes connection first firstResults before middle)
    (latter : Stops connection second done stopped secondResults error middle after) :
    Stops connection (first ++ second) (first ++ done) stopped (firstResults ++ secondResults) error
      before after where
  toAsked := by
    rw [List.append_assoc, List.map_append]
    exact former.toAsked.trans latter.toAsked
  within := by
    rw [List.append_assoc]
    exact (List.prefix_append_right_inj first).mpr latter.within
  answered := by
    rw [List.append_assoc, List.map_append, former.toAsked.answers_append, former.answered,
      latter.answered, List.map_append, List.append_assoc]

variable {Result Next : Type} {server : Server}

theorem follows_pure (value : Result) :
    Follows connection server (fun _ => []) (fun _ => value) (pure value) :=
  fun _ _ => ⟨[], .inl ⟨completes_nil (.nil rfl rfl rfl rfl) rfl, rfl⟩⟩

/-- The second plan may depend on the value of the first action. -/
theorem Follows.bind {plan : List Planned} {value : List ResultSet → Result}
    {laterPlan : Result → List ResultSet → List Planned}
    {laterValue : Result → List ResultSet → Next} {action : Action Result}
    {next : Result → Action Next}
    (former : Follows connection server (fun _ => plan) value action)
    (latter : ∀ result, Follows connection server (laterPlan result) (laterValue result)
      (next result)) :
    Follows connection server
      (fun results => plan ++
        laterPlan (value (results.take plan.length)) (results.drop plan.length))
      (fun results => laterValue (value (results.take plan.length)) (results.drop plan.length))
      (action >>= next) := by
  intro session serves
  obtain ⟨first, outcome⟩ := former session serves
  rw [Action.run_bind]
  generalize action session = reached at outcome ⊢
  rcases reached with ⟨result, middle⟩
  obtain ⟨completes, rfl⟩ | ⟨done, stopped, error, failure, stops, rfl, blames⟩ := outcome
  · obtain ⟨second, outcome⟩ :=
      latter (value first) middle ((congrFun completes.servers _).trans serves)
    have length : first.length = plan.length := completes.length_results
    refine ⟨first ++ second, ?_⟩
    dsimp only
    rw [List.take_left' length, List.drop_left' length]
    obtain ⟨follows, given⟩ | ⟨done, stopped, error, failure, stops, raised, blames⟩ := outcome
    · exact .inl ⟨completes.trans follows, given⟩
    · exact .inr ⟨_, stopped, error, failure, completes.trans_stops stops, raised, blames⟩
  · refine ⟨first, .inr ⟨done, stopped, error, failure, ?_, rfl, blames⟩⟩
    exact { stops with within := stops.within.trans (List.prefix_append plan _) }

/-- A plan may be written in another way, and so may the value, where there are as many results as
statements. -/
theorem Follows.congr {plan samePlan : List ResultSet → List Planned}
    {value sameValue : List ResultSet → Result} {action : Action Result}
    (follows : Follows connection server plan value action)
    (plans : ∀ results, plan results = samePlan results)
    (values : ∀ results, results.length = (plan results).length →
      value results = sameValue results) :
    Follows connection server samePlan sameValue action := by
  intro session serves
  obtain ⟨results, outcome⟩ := follows session serves
  refine ⟨results, ?_⟩
  obtain ⟨completes, given⟩ | stops := outcome
  · rw [values results completes.length_results] at given
    exact .inl ⟨plans results ▸ completes, given⟩
  · exact .inr (plans results ▸ stops)

/-- Computing with the value of an action asks for nothing. -/
theorem Follows.map {plan : List Planned} {value : List ResultSet → Result} {action : Action Result}
    (follows : Follows connection server (fun _ => plan) value action) (compute : Result → Next) :
    Follows connection server (fun _ => plan) (fun results => compute (value results))
      (action >>= fun result => pure (compute result)) := by
  refine (follows.bind fun result => follows_pure (compute result)).congr
    (fun results => List.append_nil plan) fun results length => ?_
  rw [List.append_nil] at length
  rw [List.take_of_length_le (Nat.le_of_eq length)]

theorem follows_report (reporter : Reporter) (level : Level) (message : Text) :
    Follows connection server (fun _ => []) (fun _ => ())
      (Action.report reporter level message) :=
  fun _ _ => ⟨[], .inl ⟨completes_nil (.nil rfl rfl rfl rfl) rfl, rfl⟩⟩

end Composition

end DumpRestore
