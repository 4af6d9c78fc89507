/-
This file says what a statement on a managed connection does to a session. The server is asked for a
cursor, and for the statement where it gives one; the connection lists the statement as an attempt
in either case, so that what was tried is known also where nothing reached the server. A
conversation is any number of statements on one connection: everything in it that probes depend on
follows from the list of its statements, and two conversations in a row are a conversation.
-/

import DumpRestore.Connection.Managed
import DumpRestore.Proofs.Session.Actions

namespace DumpRestore

/-! ### Servers that are asked -/

namespace Server

/-- What comes of a statement after earlier requests, and the requests by then, the latest of which
comes first. -/
def ask (server : Server) (earlier : List Request) (statement : Statement) :
    Except Failure ResultSet × List Request :=
  match server.respond earlier .openCursor with
  | .error failure => (.error failure, .openCursor :: earlier)
  | .ok _ =>
    (server.respond (.openCursor :: earlier) (.execute statement),
      .execute statement :: .openCursor :: earlier)

/-- What comes of statements one after the other, and the requests by then. -/
def askAll (server : Server) (earlier : List Request) :
    List Statement → List (Except Failure ResultSet) × List Request
  | [] => ([], earlier)
  | statement :: statements =>
    let (answer, requests) := server.ask earlier statement
    let (answers, requests) := server.askAll requests statements
    (answer :: answers, requests)

variable (server : Server) (earlier : List Request)

theorem askAll_cons (statement : Statement) (statements : List Statement) :
    server.askAll earlier (statement :: statements) =
      ((server.ask earlier statement).1 ::
          (server.askAll (server.ask earlier statement).2 statements).1,
        (server.askAll (server.ask earlier statement).2 statements).2) := rfl

theorem askAll_append (first second : List Statement) :
    server.askAll earlier (first ++ second) =
      ((server.askAll earlier first).1 ++
          (server.askAll (server.askAll earlier first).2 second).1,
        (server.askAll (server.askAll earlier first).2 second).2) := by
  induction first generalizing earlier with
  | nil => rfl
  | cons statement first inductionHypothesis =>
    rw [List.cons_append, askAll_cons, inductionHypothesis, askAll_cons]
    rfl

/-- The latest request by the time a statement has been asked is the one that was answered. -/
theorem exists_ask (statement : Statement) :
    ∃ request requests, (server.ask earlier statement).2 = request :: requests ∧
      server.respond requests request = (server.ask earlier statement).1 := by
  unfold ask
  cases opened : server.respond earlier .openCursor with
  | error failure => exact ⟨.openCursor, earlier, rfl, opened⟩
  | ok result => exact ⟨.execute statement, .openCursor :: earlier, rfl, rfl⟩

end Server

/-! ### Statements in a session -/

namespace Session

/-- The session after a server was asked a statement. -/
def asked (server : Text) (statement : Statement) (session : Session) : Session :=
  match (session.servers server).respond (session.received server) .openCursor with
  | .error _ => Action.remember server .openCursor session
  | .ok _ =>
    Action.remember server (.execute statement) (Action.remember server .openCursor session)

/-- What a server was asked is all that a statement changes. -/
theorem asked_eq (server : Text) (statement : Statement) (session : Session) :
    ∃ sent : List Statement, sent.Sublist [statement] ∧ session.asked server statement =
      { session with
        received := update session.received server
          ((session.servers server).ask (session.received server) statement).2
        statements := session.statements ++ sent.map (server, ·) } := by
  unfold asked Server.ask
  cases (session.servers server).respond (session.received server) .openCursor with
  | error failure =>
    refine ⟨[], List.nil_sublist _, ?_⟩
    rw [List.map_nil, List.append_nil]
    rfl
  | ok result =>
    refine ⟨[statement], List.Sublist.refl _, ?_⟩
    have latest : update (update session.received server (.openCursor :: session.received server))
        server (.execute statement :: update session.received server
          (.openCursor :: session.received server) server) =
        update session.received server
          (.execute statement :: .openCursor :: session.received server) := by
      rw [update_self, update_update]
    exact congrArg (fun received => { session with
      received, statements := session.statements ++ [(server, statement)] }) latest

end Session

/-- The outcome of a statement is the answer of its server. -/
theorem Action.run_execute (server : Text) (statement : Statement) (session : Session) :
    Action.execute server statement session =
      (((session.servers server).ask (session.received server) statement).1.mapError
        Fault.ofFailure, session.asked server statement) := by
  unfold Action.execute Server.ask Session.asked
  rw [run_bind, run_send]
  cases (session.servers server).respond (session.received server) .openCursor with
  | error failure => rfl
  | ok result =>
    dsimp only [Except.mapError]
    rw [run_send]
    unfold remember
    dsimp only
    rw [update_self]
    rfl

namespace Connection

variable (connection : Connection) (statement : Statement)

/-- The session in which a connection was given a statement, before anything is sent. -/
def given (session : Session) : Session :=
  { session with
    attempts := session.attempts ++ [(connection.key, statement)]
    standings := update session.standings connection.key
      { session.standings connection.key with lastQuery := statement.sql, lastError := [] } }

/-- An answer is the result of a statement, a refusal is none, and a crash is a fault. -/
theorem run_attempt (session : Session) :
    connection.attempt statement session =
      let reached := (connection.given statement session).asked connection.server statement
      match ((session.servers connection.server).ask
          (session.received connection.server) statement).1 with
      | .ok result => (.ok (some result), reached)
      | .error (.refused error) =>
        (.ok none, (connection.reportRefusal statement.sql error reached).2)
      | .error (.crashed crash) => (.error (.crashed crash), reached) := by
  let attempts := session.attempts ++ [(connection.key, statement)]
  have remembered : connection.rememberAttempt statement session =
      (.ok ⟨⟩, { session with attempts }) := rfl
  have stood : connection.modifyStanding
      (fun standing => { standing with lastQuery := statement.sql, lastError := [] })
      { session with attempts } = (.ok ⟨⟩, connection.given statement session) := rfl
  have asked : Action.execute connection.server statement (connection.given statement session) =
      (((session.servers connection.server).ask
          (session.received connection.server) statement).1.mapError Fault.ofFailure,
        (connection.given statement session).asked connection.server statement) :=
    Action.run_execute connection.server statement (connection.given statement session)
  unfold attempt
  rw [Action.run_bind_ok _ remembered, Action.run_bind_ok _ stood, Action.run_bind]
  unfold Action.catchRefusal
  rw [asked]
  cases ((session.servers connection.server).ask (session.received connection.server)
      statement).1 with
  | ok result => rfl
  | error failure => cases failure <;> rfl

/-- A statement that is asked is the last one of its connection, without an error yet. -/
theorem standings_asked (session : Session) :
    ((connection.given statement session).asked connection.server statement).standings
        connection.key =
      { session.standings connection.key with lastError := [], lastQuery := statement.sql } := by
  obtain ⟨sent, _, reached⟩ :=
    Session.asked_eq connection.server statement (connection.given statement session)
  rw [reached]
  exact update_self _ _ _

/-- The words of a refusal are all that a connection remembers of it. -/
theorem standings_reportRefusal (sql : Text) (error : ServerError) (session : Session) :
    (connection.reportRefusal sql error session).2.standings connection.key =
      { session.standings connection.key with lastError := error.summary } :=
  update_self _ _ _

/-- A refused statement is the last one of its connection, with the words of the refusal. -/
theorem standings_attempt_refused (session : Session) (error : ServerError)
    (refused : ((session.servers connection.server).ask
      (session.received connection.server) statement).1 = .error (.refused error)) :
    (connection.attempt statement session).2.standings connection.key =
      { session.standings connection.key with
        lastError := error.summary, lastQuery := statement.sql } := by
  rw [run_attempt, refused]
  dsimp only
  rw [standings_reportRefusal, standings_asked]

end Connection

/-! ### Conversations -/

/-- Statements were asked on a connection between two sessions: the connection lists them, some of
them reached its server, and the requests to the server are those that they lead to. -/
structure Asked (connection : Connection) (statements : List Statement)
    (before after : Session) : Prop where
  servers : after.servers = before.servers
  received : after.received = update before.received connection.server
    ((before.servers connection.server).askAll (before.received connection.server) statements).2
  attempts : after.attempts = before.attempts ++ statements.map (connection.key, ·)
  statements : ∃ sent : List Statement, sent.Sublist statements ∧
    after.statements = before.statements ++ sent.map (connection.server, ·)

/-- A conversation is statements and nothing else: no cache changes, and no connection is told to
suppress its errors or to report them again. -/
structure Conversation (connection : Connection) (statements : List Statement)
    (before after : Session) : Prop extends Asked connection statements before after where
  caches : after.caches = before.caches
  suppressed : ∀ key, (after.standings key).suppressed = (before.standings key).suppressed

namespace Asked

variable {connection : Connection} {first second : List Statement}
  {before middle after : Session}

/-- No statement was asked where no server received anything and nothing was attempted. -/
theorem nil (servers : after.servers = before.servers) (received : after.received = before.received)
    (attempts : after.attempts = before.attempts)
    (statements : after.statements = before.statements) : Asked connection [] before after where
  servers := servers
  received := by
    funext server
    rw [received]
    unfold update
    split
    · rename_i same
      rw [same]
      rfl
    · rfl
  attempts := by rw [attempts, List.map_nil, List.append_nil]
  statements := ⟨[], List.Sublist.refl [], by rw [statements, List.map_nil, List.append_nil]⟩

theorem trans (former : Asked connection first before middle)
    (latter : Asked connection second middle after) :
    Asked connection (first ++ second) before after where
  servers := latter.servers.trans former.servers
  received := by
    rw [latter.received, former.received, former.servers, update_self, update_update,
      Server.askAll_append]
  attempts := by
    rw [latter.attempts, former.attempts, List.map_append, List.append_assoc]
  statements := by
    obtain ⟨formerSent, formerSublist, formerEqual⟩ := former.statements
    obtain ⟨latterSent, latterSublist, latterEqual⟩ := latter.statements
    refine ⟨formerSent ++ latterSent, formerSublist.append latterSublist, ?_⟩
    rw [latterEqual, formerEqual, List.map_append, List.append_assoc]

end Asked

namespace Conversation

variable {connection : Connection} {first second : List Statement}
  {before middle after : Session}

theorem refl (session : Session) : Conversation connection [] session session where
  toAsked := .nil rfl rfl rfl rfl
  caches := rfl
  suppressed := fun _ => rfl

theorem trans (former : Conversation connection first before middle)
    (latter : Conversation connection second middle after) :
    Conversation connection (first ++ second) before after where
  toAsked := former.toAsked.trans latter.toAsked
  caches := latter.caches.trans former.caches
  suppressed := fun key => (latter.suppressed key).trans (former.suppressed key)

end Conversation

/-! ### Statements are conversations -/

/-- A fault that is not the failure of a query. No probe has such a fault as its result. -/
def Fault.IsIncident (fault : Fault) : Prop :=
  ∀ failure, fault ≠ .queryFailed failure

namespace Connection

variable (connection : Connection) (statement : Statement)

/-- Remembering an error or a statement does not change whether errors are suppressed. -/
theorem suppressed_update (session : Session) (standing : Standing)
    (same : standing.suppressed = (session.standings connection.key).suppressed)
    (key : ConnectionKey) :
    (update session.standings connection.key standing key).suppressed =
      (session.standings key).suppressed := by
  unfold update
  split
  · rename_i equal
    rw [equal, same]
  · rfl

theorem conversation_asked (session : Session) :
    Conversation connection [statement] session
      ((connection.given statement session).asked connection.server statement) := by
  obtain ⟨sent, sublist, reached⟩ :=
    Session.asked_eq connection.server statement (connection.given statement session)
  rw [reached]
  exact {
    servers := rfl
    received := rfl
    attempts := rfl
    statements := ⟨sent, sublist, rfl⟩
    caches := rfl
    suppressed := connection.suppressed_update session _ rfl }

theorem conversation_report (reporter : Reporter) (level : Level) (message : Text)
    (session : Session) :
    Conversation connection [] session (Action.report reporter level message session).2 where
  toAsked := .nil rfl rfl rfl rfl
  caches := rfl
  suppressed := fun _ => rfl

theorem conversation_reportRefusal (sql : Text) (error : ServerError) (session : Session) :
    Conversation connection [] session (connection.reportRefusal sql error session).2 where
  toAsked := .nil rfl rfl rfl rfl
  caches := rfl
  suppressed := connection.suppressed_update session _ rfl

/-- A statement that is given to a connection is a conversation about it, whatever comes of it. -/
theorem conversation_attempt (session : Session) :
    Conversation connection [statement] session (connection.attempt statement session).2 := by
  have asked := connection.conversation_asked statement session
  rw [run_attempt]
  dsimp only
  split
  · exact asked
  · exact asked.trans (connection.conversation_reportRefusal _ _ _)
  · exact asked

/-- What comes of a statement is a result, which may be a refusal, or a fault that is no failed
query. -/
theorem meets_attempt :
    (connection.attempt statement).Meets (Conversation connection [statement]) (fun _ => True)
      Fault.IsIncident := by
  intro session
  refine ⟨connection.conversation_attempt statement session, ?_⟩
  rw [run_attempt]
  dsimp only
  cases ((session.servers connection.server).ask (session.received connection.server)
      statement).1 with
  | ok result => trivial
  | error failure =>
    cases failure with
    | refused error => trivial
    | crashed crash => nofun

theorem meets_query (sql : Text) (parameters : Option (List Value)) :
    (connection.query sql parameters).Meets (Conversation connection [{ sql, parameters }])
      (fun _ => True) Fault.IsIncident :=
  (connection.meets_attempt _).map _ fun _ _ => trivial

theorem meets_rows (sql : Text) (parameters : Option (List Value)) :
    (connection.rows sql parameters).Meets (Conversation connection [{ sql, parameters }])
      (fun _ => True) Fault.IsIncident :=
  (connection.meets_attempt _).map _ fun _ _ => trivial

end Connection

/-! ### What may be said -/

namespace Connection

variable (connection : Connection)

/-- Statements of some sort may be said on a connection, in any order and number, and nothing else
happens. -/
def MaySay (allowed : Statement → Prop) (before after : Session) : Prop :=
  ∃ statements, (∀ statement ∈ statements, allowed statement) ∧
    Conversation connection statements before after

/-- One statement is said first, and then statements of some sort. -/
def Begins (first : Statement) (allowed : Statement → Prop) (before after : Session) : Prop :=
  ∃ statements, (∀ statement ∈ statements, allowed statement) ∧
    Conversation connection (first :: statements) before after

variable {allowed : Statement → Prop}

instance : IsPreorder Session (connection.MaySay allowed) where
  refl session := ⟨[], fun _ none => absurd none List.not_mem_nil, .refl session⟩
  trans _ _ _ former latter := by
    obtain ⟨first, firstAllowed, firstSaid⟩ := former
    obtain ⟨second, secondAllowed, secondSaid⟩ := latter
    refine ⟨first ++ second, fun statement member => ?_, firstSaid.trans secondSaid⟩
    exact (List.mem_append.mp member).elim (firstAllowed statement) (secondAllowed statement)

theorem meets_report (reporter : Reporter) (level : Level) (message : Text) :
    (Action.report reporter level message).Meets (connection.MaySay allowed) (fun _ => True)
      Fault.IsIncident :=
  fun session => ⟨⟨[], fun _ none => absurd none List.not_mem_nil,
    connection.conversation_report reporter level message session⟩, trivial⟩

theorem meets_standing {relation : Session → Session → Prop} [IsPreorder Session relation] :
    connection.standing.Meets relation (fun _ => True) Fault.IsIncident :=
  fun session => ⟨refl_of relation session, trivial⟩

variable {connection} {statement : Statement} {Result Next : Type} {value : Result → Prop}
  {later : Next → Prop} {raised : Fault → Prop} {action : Action Result}

/-- An action that says one thing may be where that may be said. -/
theorem maySay_of_meets (permitted : allowed statement)
    (meets : action.Meets (Conversation connection [statement]) value raised) :
    action.Meets (connection.MaySay allowed) value raised :=
  fun session => ⟨⟨[statement], fun _ said => List.mem_singleton.mp said ▸ permitted,
    (meets session).1⟩, (meets session).2⟩

/-- What is said first comes first, whatever else may be said after it. -/
theorem begins_bind {next : Result → Action Next}
    (former : action.Meets (Conversation connection [statement]) value raised)
    (latter : ∀ result, (next result).Meets (connection.MaySay allowed) later raised) :
    (action >>= next).Meets (connection.Begins statement allowed) later raised := by
  refine former.andThen (fun result _ => latter result) ?_ ?_
  · exact fun _ _ said => ⟨[], fun _ none => absurd none List.not_mem_nil, said⟩
  · rintro _ _ _ said ⟨statements, permitted, others⟩
    exact ⟨statements, permitted, said.trans others⟩

end Connection

end DumpRestore
