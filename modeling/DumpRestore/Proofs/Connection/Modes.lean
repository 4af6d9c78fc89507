/-
This file says what relaxing the SQL mode of a session does to the server. A channel is asked for
the mode once, and is given a new mode once at most; the new mode is merged from the text that was
read, so that nothing is written where nothing was read. All that servers receive meanwhile is told
as an exchange on one channel, and two exchanges in a row are an exchange.
-/

import DumpRestore.Connection.Modes
import DumpRestore.Proofs.Session.Plan

namespace DumpRestore

/-! ### Channels -/

namespace Channel

/-- The server that a channel sends statements to; none where it has no handle that the library
knows. -/
def server? : Channel → Option Text
  | .managed connection => some connection.server
  | .direct connection => connection.supportedHandle?.map Handle.server

/-- The key of a managed connection, which lists its attempts. -/
def key? : Channel → Option ConnectionKey
  | .managed connection => some connection.key
  | .direct _ => none

/-- The first value of the first row of a result, null where there is none. A managed connection
reads rows as mappings. -/
def firstValue (channel : Channel) (result : ResultSet) : Value :=
  match channel, result.rows with
  | .managed _, some (row :: _) => row.toMapping.first
  | .direct _, some (row :: _) => row.first
  | _, _ => .null

/-- The statement that sets the SQL mode. A managed connection fills in the mode itself. -/
def assignment (modes : Text) : Channel → Statement
  | .managed _ => { sql := "SET SESSION sql_mode = %s", parameters := some [.text modes] }
  | .direct _ => { sql := "SET SESSION sql_mode='" ++ SqlLiteral.escape modes ++ "'" }

end Channel

namespace ModeManager

/-- The query for the SQL mode. -/
def modeQuery : Statement := { sql := "SELECT @@SESSION.sql_mode" }

/-- The channel that is used for a subject, none where there is none. -/
def channel? (manager : ModeManager) : Subject → Option Channel
  | .absent => manager.default
  | .channel channel => some channel
  | .handle handle =>
    if handle.isSupported then
      some (.direct { handle := some handle, reporter := manager.reporter })
    else none
  | .other _ => none

end ModeManager

/-! ### Exchanges -/

/-- Statements were asked on a channel between two sessions: its server received the requests that
they lead to and no other server received any, and a managed connection lists all of them. -/
structure Exchange (channel : Option Channel) (statements : List Statement)
    (before after : Session) : Prop where
  servers : after.servers = before.servers
  received : ∀ server, after.received server =
    if channel.bind Channel.server? = some server then
      ((before.servers server).askAll (before.received server) statements).2
    else before.received server
  attempts : after.attempts = before.attempts ++
    (channel.bind Channel.key?).toList.flatMap fun key => statements.map (key, ·)
  statements : ∃ sent : List Statement, sent.Sublist statements ∧
    after.statements = before.statements ++
      (channel.bind Channel.server?).toList.flatMap fun server => sent.map (server, ·)

namespace Exchange

variable {channel : Option Channel} {first second : List Statement}
  {before middle after : Session}

theorem nil (servers : after.servers = before.servers) (received : after.received = before.received)
    (attempts : after.attempts = before.attempts)
    (statements : after.statements = before.statements) : Exchange channel [] before after where
  servers := servers
  received := by
    intro server
    rw [received]
    split <;> rfl
  attempts := by
    rw [attempts]
    cases channel.bind Channel.key? <;> exact (List.append_nil _).symm
  statements := by
    refine ⟨[], List.Sublist.refl [], ?_⟩
    rw [statements]
    cases channel.bind Channel.server? <;> exact (List.append_nil _).symm

theorem trans (former : Exchange channel first before middle)
    (latter : Exchange channel second middle after) :
    Exchange channel (first ++ second) before after where
  servers := latter.servers.trans former.servers
  received := by
    intro server
    rw [latter.received, former.received, former.servers]
    split
    · rw [Server.askAll_append]
    · rfl
  attempts := by
    rw [latter.attempts, former.attempts, List.append_assoc]
    cases channel.bind Channel.key? with
    | none => rfl
    | some key => simp only [Option.toList_some, List.flatMap_singleton, List.map_append]
  statements := by
    obtain ⟨formerSent, formerSublist, formerEqual⟩ := former.statements
    obtain ⟨latterSent, latterSublist, latterEqual⟩ := latter.statements
    refine ⟨formerSent ++ latterSent, formerSublist.append latterSublist, ?_⟩
    rw [latterEqual, formerEqual, List.append_assoc]
    cases channel.bind Channel.server? with
    | none => rfl
    | some server => simp only [Option.toList_some, List.flatMap_singleton, List.map_append]

/-- What is asked on a managed connection is an exchange on it. -/
theorem ofAsked {connection : Connection} {statements : List Statement}
    (asked : Asked connection statements before after) :
    Exchange (some (.managed connection)) statements before after where
  servers := asked.servers
  received := by
    intro server
    rw [asked.received, update]
    by_cases same : server = connection.server
    · subst same
      rw [if_pos rfl]
      exact (if_pos rfl).symm
    · rw [if_neg same]
      exact (if_neg fun equal => same (Option.some.inj equal).symm).symm
  attempts := by
    rw [asked.attempts]
    exact congrArg _ (List.flatMap_singleton _ _).symm
  statements := by
    obtain ⟨sent, sublist, equal⟩ := asked.statements
    exact ⟨sent, sublist, equal.trans (congrArg _ (List.flatMap_singleton _ _).symm)⟩

/-- A statement that is executed on a supported handle is an exchange on its direct connection. -/
theorem asked {connection : DirectConnection} {handle : Handle}
    (supported : connection.supportedHandle? = some handle) (statement : Statement)
    (session : Session) :
    Exchange (some (.direct connection)) [statement] session
      (session.asked handle.server statement) := by
  have server : (some (Channel.direct connection)).bind Channel.server? = some handle.server :=
    congrArg (Option.map Handle.server) supported
  obtain ⟨sent, sublist, reached⟩ := Session.asked_eq handle.server statement session
  rw [reached]
  constructor
  · rfl
  · intro other
    rw [server]
    show update _ handle.server _ other = _
    rw [update]
    by_cases same : other = handle.server
    · subst same
      rw [if_pos rfl, if_pos rfl]
      rfl
    · rw [if_neg same, if_neg fun equal => same (Option.some.inj equal).symm]
  · exact (List.append_nil _).symm
  · refine ⟨sent, sublist, ?_⟩
    rw [server]
    exact congrArg _ (List.flatMap_singleton _ _).symm

end Exchange

/-! ### Reading the mode -/

/-- What a server would answer to a statement that is asked next. -/
def Session.answer (session : Session) (server : Text) (statement : Statement) :
    Except Failure ResultSet :=
  ((session.servers server).ask (session.received server) statement).1

/-- The text that a value is. -/
def Value.text? : Value → Option Text
  | .text content => some content
  | _ => none

/-- The mode that a value stands for: a text, or bytes that decode to one. Bytes that do not are a
fault, and no other value is a mode. -/
def Value.mode : Value → Except Fault (Option Text)
  | .text content => .ok (some content)
  | .bytes content | .buffer content =>
    match Text.ofUtf8 content with
    | .ok decoded => .ok (some decoded)
    | .error flaw => .error (.undecodable flaw)
  | _ => .ok none

/-- The value that another one decodes to. Only bytes change, and only bytes may be a fault. -/
def Value.decoded : Value → Except Fault Value
  | .bytes content | .buffer content =>
    match Text.ofUtf8 content with
    | .ok decoded => .ok (.text decoded)
    | .error flaw => .error (.undecodable flaw)
  | value => .ok value

theorem Action.run_decode (value : Value) (session : Session) :
    Action.decode value session = (value.decoded, session) := by
  cases value with
  | bytes content | buffer content =>
    unfold Action.decode Value.decoded
    dsimp only
    cases Text.ofUtf8 content <;> rfl
  | _ => rfl

theorem Value.map_text?_decoded (value : Value) : value.decoded.map Value.text? = value.mode := by
  cases value with
  | bytes content | buffer content =>
    unfold Value.decoded Value.mode
    dsimp only
    cases Text.ofUtf8 content <;> rfl
  | _ => rfl

namespace Channel

/-- The statements by which a channel reads the mode: one query, and none where it has no server. -/
def queries (channel : Channel) : List Statement :=
  channel.server?.toList.map fun _ => ModeManager.modeQuery

/-- The mode that a channel reads, none where it reads no text. A query that is refused reads
nothing, and one that crashes is a fault. -/
def reading (channel : Channel) (session : Session) : Except Fault (Option Text) :=
  match channel.server? with
  | none => .ok none
  | some server =>
    match session.answer server ModeManager.modeQuery with
    | .ok result => (channel.firstValue result).mode
    | .error (.refused _) => .ok none
    | .error (.crashed crash) => .error (.crashed crash)

/-- A channel is asked for the mode and for nothing else, and reads what it is answered. -/
def ReadsMode (channel : Channel) (session : Session) : Prop :=
  let run := channel.readVariable ModeManager.modeVariable session
  Exchange (some channel) channel.queries session run.2 ∧
    run.1.map Value.text? = channel.reading session

end Channel

/-- An answer is decoded, and a refusal, which is noted, gives a value that is no text. -/
theorem Channel.readsMode_of_run {channel : Channel} {server : Text} {session reached : Session}
    (noted : ServerError → Session) (served : channel.server? = some server)
    (asked : Exchange (some channel) [ModeManager.modeQuery] session reached)
    (quiet : ∀ error, Exchange (some channel) [] reached (noted error))
    (run : channel.readVariable ModeManager.modeVariable session =
      match session.answer server ModeManager.modeQuery with
      | .ok result => Action.decode (channel.firstValue result) reached
      | .error (.refused error) => (.ok (.bool false), noted error)
      | .error (.crashed crash) => (.error (.crashed crash), reached)) :
    channel.ReadsMode session := by
  unfold ReadsMode reading queries
  rw [run, served]
  dsimp only
  cases session.answer server ModeManager.modeQuery with
  | ok result =>
    dsimp only
    rw [Action.run_decode]
    exact ⟨asked, Value.map_text?_decoded _⟩
  | error failure =>
    cases failure with
    | refused error => exact ⟨asked.trans (quiet error), rfl⟩
    | crashed crash => exact ⟨asked, rfl⟩

theorem isPlain_modeVariable : Identifier.isPlain ModeManager.modeVariable = true := by
  decide +kernel

/-- A read decodes the first value of the result, and gives false where there is none. -/
theorem Connection.run_readVariable (connection : Connection) (name : Text) (session : Session)
    (plain : Identifier.isPlain name = true) :
    connection.readVariable name session =
      match connection.attempt { sql := "SELECT @@SESSION." ++ name } session with
      | (.ok none, after) => (.ok (.bool false), after)
      | (.ok (some result), after) =>
        Action.decode ((Channel.managed connection).firstValue result) after
      | (.error fault, after) => (.error fault, after) := by
  unfold Connection.readVariable Connection.rows
  rw [if_pos plain, Action.run_bind, Action.run_bind]
  rcases connection.attempt { sql := "SELECT @@SESSION." ++ name } session with
    ⟨fault | _ | ⟨rows, count⟩, after⟩
  · rfl
  · rfl
  · cases rows with
    | none => rfl
    | some rows => cases rows <;> rfl

theorem Connection.readsMode (connection : Connection) (session : Session) :
    (Channel.managed connection).ReadsMode session := by
  have query : { sql := "SELECT @@SESSION." ++ ModeManager.modeVariable, parameters := none } =
      ModeManager.modeQuery := rfl
  refine Channel.readsMode_of_run _ rfl
    (.ofAsked (connection.conversation_asked ModeManager.modeQuery session).toAsked)
    (fun error => .ofAsked
      (connection.conversation_reportRefusal ModeManager.modeQuery.sql error _).toAsked) ?_
  show connection.readVariable ModeManager.modeVariable session = _
  rw [run_readVariable _ _ _ isPlain_modeVariable, query, run_attempt]
  unfold Session.answer
  dsimp only
  rcases ((session.servers connection.server).ask (session.received connection.server)
    ModeManager.modeQuery).1 with (error | crash) | result <;> rfl

theorem DirectConnection.run_firstValue (connection : DirectConnection) (server sql : Text)
    (session : Session) :
    DirectConnection.firstValue server sql session =
      (((session.answer server { sql }).mapError Fault.ofFailure).map
        (Channel.direct connection).firstValue, session.asked server { sql }) := by
  unfold DirectConnection.firstValue
  rw [Action.run_bind, Action.run_execute]
  unfold Session.answer
  rcases ((session.servers server).ask (session.received server) { sql }).1 with
    failure | ⟨rows, count⟩
  · rfl
  · cases rows with
    | none => rfl
    | some rows => cases rows <;> rfl

namespace DirectConnection

variable {connection : DirectConnection} {handle : Handle} (name : Text) (session : Session)

/-- The statement that reads a variable. -/
def query (name : Text) : Statement := { sql := "SELECT @@SESSION." ++ SqlLiteral.escape name }

theorem run_readVariable_unsupported (unsupported : connection.supportedHandle? = none) :
    connection.readVariable name session = (.ok (.bool false), session) := by
  unfold readVariable
  rw [unsupported]
  rfl

/-- A read decodes what it is answered, and notes a refusal. -/
theorem run_readVariable (supported : connection.supportedHandle? = some handle) :
    connection.readVariable name session =
      let reached := session.asked handle.server (query name)
      match session.answer handle.server (query name) with
      | .ok result => Action.decode ((Channel.direct connection).firstValue result) reached
      | .error (.refused error) => (.ok (.bool false), (Action.report connection.reporter .debug
          ("Reading session variable " ++ name ++ " failed: " ++ error.description) reached).2)
      | .error (.crashed crash) => (.error (.crashed crash), reached) := by
  have statement : { sql := "SELECT @@SESSION." ++ SqlLiteral.escape name } = query name := rfl
  unfold readVariable
  rw [supported]
  dsimp only
  rw [Action.run_bind]
  unfold Action.catchRefusal
  rw [connection.run_firstValue, statement]
  cases session.answer handle.server (query name) with
  | ok result => rfl
  | error failure => cases failure <;> rfl

variable (connection)

theorem readsMode : (Channel.direct connection).ReadsMode session := by
  cases supported : connection.supportedHandle? with
  | none =>
    unfold Channel.ReadsMode Channel.reading Channel.queries Channel.readVariable
    dsimp only [Channel.server?]
    rw [run_readVariable_unsupported _ session supported, supported]
    exact ⟨.nil rfl rfl rfl rfl, rfl⟩
  | some handle =>
    have served : (Channel.direct connection).server? = some handle.server :=
      congrArg (Option.map Handle.server) supported
    have query : query ModeManager.modeVariable = ModeManager.modeQuery := rfl
    have run := run_readVariable ModeManager.modeVariable session supported
    rw [query] at run
    refine Channel.readsMode_of_run _ served (.asked supported ModeManager.modeQuery session) ?_ run
    exact fun error => .nil rfl rfl rfl rfl

end DirectConnection

theorem Channel.length_queries_le (channel : Channel) : channel.queries.length ≤ 1 := by
  unfold queries
  cases channel.server? with
  | none => exact Nat.zero_le 1
  | some server => exact Nat.le_refl 1

theorem Channel.readsMode (channel : Channel) (session : Session) : channel.ReadsMode session := by
  cases channel with
  | managed connection => exact connection.readsMode session
  | direct connection => exact connection.readsMode session

/-! ### Writing the mode -/

/-- What may be said of an answer to a statement that sets something: true of a result, false of a
refusal. A failure may also be raised as the fault that it is. -/
inductive Says : Except Failure ResultSet → Except Fault Bool → Prop
  | accepted (result : ResultSet) : Says (.ok result) (.ok true)
  | refused (error : ServerError) : Says (.error (.refused error)) (.ok false)
  | raised (failure : Failure) : Says (.error failure) (.error (Fault.ofFailure failure))

/-- A channel is given a mode and nothing else, and says what it is answered. -/
def Channel.WritesMode (channel : Channel) (server modes : Text) (session : Session) : Prop :=
  let run := channel.writeVariable ModeManager.modeVariable (.text modes) session
  Exchange (some channel) [channel.assignment modes] session run.2 ∧
    Says (session.answer server (channel.assignment modes)) run.1

/-- A write says whether its statement has a result. -/
theorem Connection.run_writeVariable (connection : Connection) (name : Text) (value : Value)
    (session : Session) (plain : Identifier.isPlain name = true) :
    connection.writeVariable name value session =
      match connection.attempt
        { sql := "SET SESSION " ++ name ++ " = %s", parameters := some [value] } session with
      | (.ok result, after) => (.ok result.isSome, after)
      | (.error fault, after) => (.error fault, after) := by
  unfold Connection.writeVariable Connection.query
  rw [if_pos plain, Action.run_bind, Action.run_bind]
  rcases connection.attempt
      { sql := "SET SESSION " ++ name ++ " = %s", parameters := some [value] } session with
    ⟨fault | result, after⟩
  · rfl
  · cases result <;> rfl

theorem Connection.writesMode (connection : Connection) (modes : Text) (session : Session) :
    (Channel.managed connection).WritesMode connection.server modes session := by
  let write := (Channel.managed connection).assignment modes
  have exchange := Exchange.ofAsked (connection.conversation_attempt write session).toAsked
  have assignment :
      { sql := "SET SESSION " ++ ModeManager.modeVariable ++ " = %s"
        parameters := some [.text modes] } = write := rfl
  have run := connection.run_writeVariable _ (.text modes) session isPlain_modeVariable
  have attempted := connection.run_attempt write session
  rw [assignment] at run
  show Exchange _ _ _ (connection.writeVariable _ _ session).2 ∧
    Says (session.answer connection.server write) (connection.writeVariable _ _ session).1
  rw [run]
  unfold Session.answer
  cases answered : ((session.servers connection.server).ask (session.received connection.server)
      write).1 with
  | ok result =>
    rw [answered] at attempted
    rw [attempted] at exchange ⊢
    exact ⟨exchange, .accepted result⟩
  | error failure =>
    rw [answered] at attempted
    cases failure with
    | refused error =>
      dsimp only at attempted
      rw [attempted] at exchange ⊢
      exact ⟨exchange, .refused error⟩
    | crashed crash =>
      dsimp only at attempted
      rw [attempted] at exchange ⊢
      exact ⟨exchange, .raised (.crashed crash)⟩

namespace DirectConnection

variable {connection : DirectConnection} {handle : Handle}

theorem run_writeVariable_unsupported (name : Text) (value : Value) (session : Session)
    (unsupported : connection.supportedHandle? = none) :
    connection.writeVariable name value session = (.ok false, session) := by
  unfold writeVariable
  rw [unsupported]
  rfl

/-- A write raises what happens at the cursor, and notes a refusal of the statement. -/
theorem run_writeVariable (name : Text) (value : Value) (session : Session)
    (supported : connection.supportedHandle? = some handle) :
    connection.writeVariable name value session =
      let write : Statement := { sql := assignment name value }
      let reached := session.asked handle.server write
      match (session.servers handle.server).respond (session.received handle.server)
        .openCursor with
      | .error failure => (.error (Fault.ofFailure failure), reached)
      | .ok _ =>
        match (session.servers handle.server).respond
          (.openCursor :: session.received handle.server) (.execute write) with
        | .ok _ => (.ok true, reached)
        | .error (.refused error) => (.ok false, (Action.report connection.reporter .debug
            ("Writing session variable " ++ name ++ " failed: " ++ error.description) reached).2)
        | .error (.crashed crash) => (.error (.crashed crash), reached) := by
  unfold writeVariable Session.asked
  rw [supported]
  dsimp only
  rw [Action.run_bind, Action.run_send]
  cases (session.servers handle.server).respond (session.received handle.server) .openCursor with
  | error failure => rfl
  | ok cursor =>
    have latest : (Action.remember handle.server .openCursor session).received handle.server =
        .openCursor :: session.received handle.server := update_self _ _ _
    have same : (Action.remember handle.server .openCursor session).servers = session.servers := rfl
    dsimp only [Except.mapError]
    rw [Action.run_bind]
    unfold Action.catchRefusal
    rw [Action.run_send, latest, same]
    cases (session.servers handle.server).respond (.openCursor :: session.received handle.server)
        (.execute { sql := assignment name value }) with
    | ok result => rfl
    | error failure => cases failure <;> rfl

theorem writesMode (connection : DirectConnection) (handle : Handle)
    (supported : connection.supportedHandle? = some handle) (modes : Text) (session : Session) :
    (Channel.direct connection).WritesMode handle.server modes session := by
  let write := (Channel.direct connection).assignment modes
  have exchange := Exchange.asked supported write session
  have assignment : { sql := assignment ModeManager.modeVariable (.text modes) } = write := rfl
  show Exchange _ _ _ (connection.writeVariable _ _ session).2 ∧
    Says (session.answer handle.server write) (connection.writeVariable _ _ session).1
  rw [run_writeVariable _ _ session supported, assignment]
  unfold Session.answer Server.ask
  dsimp only
  cases (session.servers handle.server).respond (session.received handle.server) .openCursor with
  | error failure => exact ⟨exchange, .raised failure⟩
  | ok cursor =>
    dsimp only
    cases (session.servers handle.server).respond (.openCursor :: session.received handle.server)
        (.execute write) with
    | ok result => exact ⟨exchange, .accepted result⟩
    | error failure =>
      cases failure with
      | refused error => exact ⟨exchange.trans (.nil rfl rfl rfl rfl), .refused error⟩
      | crashed crash => exact ⟨exchange, .raised (.crashed crash)⟩

end DirectConnection

theorem Channel.writesMode {channel : Channel} {server : Text}
    (served : channel.server? = some server) (modes : Text) (session : Session) :
    channel.WritesMode server modes session := by
  cases channel with
  | managed connection =>
    cases served
    exact connection.writesMode modes session
  | direct connection =>
    obtain ⟨handle, supported, rfl⟩ := Option.map_eq_some_iff.mp served
    exact connection.writesMode handle supported modes session

/-! ### Relaxing the mode -/

theorem Exchange.answer_eq {channel : Option Channel} {before after : Session}
    (exchange : Exchange channel [] before after) (server : Text) :
    after.answer server = before.answer server := by
  have received : after.received server = before.received server := by
    rw [exchange.received]
    split <;> rfl
  funext statement
  rw [Session.answer, received, exchange.servers]
  rfl

theorem Exchange.reading_eq {channel : Option Channel} {before after : Session}
    (exchange : Exchange channel [] before after) (reader : Channel) :
    reader.reading after = reader.reading before := by
  unfold Channel.reading
  cases reader.server? with
  | none => rfl
  | some server =>
    dsimp only
    rw [exchange.answer_eq]

/-- The answer to a statement after others is the last one of all the answers. -/
theorem Exchange.answers_append {channel : Option Channel} {statements : List Statement}
    {before middle : Session} {server : Text} (exchange : Exchange channel statements before middle)
    (served : channel.bind Channel.server? = some server) (statement : Statement) :
    before.answers server (statements ++ [statement]) =
      before.answers server statements ++ [middle.answer server statement] := by
  unfold Session.answers Session.answer
  rw [Server.askAll_append, exchange.servers, exchange.received, if_pos served]
  rfl

namespace ModeManager

variable (manager : ModeManager) (add remove : List Text) (subject : Subject)

/-- Finding the channel asks no server anything. -/
theorem run_resolve (session : Session) :
    ∃ after, manager.resolve subject session = (.ok (manager.channel? subject), after) ∧
      ∀ channel, Exchange channel [] session after := by
  have silent (channel : Option Channel) : Exchange channel [] session session :=
    .nil rfl rfl rfl rfl
  cases subject with
  | absent => exact ⟨session, rfl, silent⟩
  | channel channel => exact ⟨session, rfl, silent⟩
  | handle handle =>
    unfold resolve channel?
    dsimp only
    cases handle.isSupported with
    | true => exact ⟨session, rfl, silent⟩
    | false =>
      cases handle.kind with
      | other typeName => exact ⟨_, rfl, fun channel => .nil rfl rfl rfl rfl⟩
      | _ => exact ⟨session, rfl, silent⟩
  | other typeName => exact ⟨_, rfl, fun channel => .nil rfl rfl rfl rfl⟩

/-- What the server of the channel for a subject would answer; nothing where there is no server. -/
def answers (statements : List Statement) (session : Session) : List (Except Failure ResultSet) :=
  match (manager.channel? subject).bind Channel.server? with
  | none => []
  | some server => session.answers server statements

/-- A run that relaxes the SQL mode: the statements that it attempted, in two lists, and what came
of them. -/
structure Configured (reads writes : List Statement) (before : Session)
    (run : Except Fault (Option Bool) × Session) : Prop where
  /-- All that was attempted was attempted on the channel for the subject, first the reads and then
  the writes. -/
  exchange : Exchange (manager.channel? subject) (reads ++ writes) before run.2
  /-- The mode is read wherever there is a server that can be asked for it. -/
  asks : reads = (manager.channel? subject).elim [] Channel.queries
  oneRead : reads.length ≤ 1
  oneWrite : writes.length ≤ 1
  /-- A mode is written exactly if a text was read, and it is merged from that text. -/
  merged : ∀ write, write ∈ writes ↔ ∃ channel modes, manager.channel? subject = some channel ∧
    reads = [modeQuery] ∧ channel.reading before = .ok (some modes) ∧
    write = channel.assignment (SqlMode.merge modes add remove)
  /-- The result is none exactly if the run has a result and wrote nothing. -/
  untouched : run.1 = .ok none ↔ (∃ result, run.1 = .ok result) ∧ writes = []
  /-- Any other result says whether the server accepted the new mode. -/
  said : ∀ accepted, run.1 = .ok (some accepted) → ∃ first last,
    manager.answers subject (reads ++ writes) before = [first, last] ∧
      ((accepted = true ∧ ∃ result, last = .ok result) ∨
        (accepted = false ∧ ∃ error, last = .error (.refused error)))
  /-- A run has no result only where reading the mode is a fault or writing it failed. -/
  raised : ∀ fault, run.1 = .error fault →
    (∃ channel, manager.channel? subject = some channel ∧
      channel.reading before = .error fault) ∨
    ∃ first failure, manager.answers subject (reads ++ writes) before = [first, .error failure] ∧
      fault = Fault.ofFailure failure

variable {manager add remove subject} {reads : List Statement} {before : Session}
  {run : Except Fault (Option Bool) × Session}

theorem configured_of_unwritten (exchange : Exchange (manager.channel? subject) reads before run.2)
    (asks : reads = (manager.channel? subject).elim [] Channel.queries)
    (unread : ∀ channel modes, manager.channel? subject = some channel →
      channel.reading before ≠ .ok (some modes))
    (ends : run.1 = .ok none ∨ ∃ fault channel, run.1 = .error fault ∧
      manager.channel? subject = some channel ∧ channel.reading before = .error fault) :
    manager.Configured add remove subject reads [] before run where
  exchange := (List.append_nil reads).symm ▸ exchange
  asks := asks
  oneRead := by
    rw [asks]
    cases manager.channel? subject with
    | none => exact Nat.zero_le 1
    | some channel => exact channel.length_queries_le
  oneWrite := Nat.zero_le 1
  merged := by
    intro write
    constructor
    · intro impossible
      cases impossible
    · rintro ⟨channel, modes, chosen, _, read, _⟩
      exact absurd read (unread channel modes chosen)
  untouched := by
    constructor
    · exact fun none => ⟨⟨_, none⟩, rfl⟩
    · rintro ⟨⟨result, returned⟩, _⟩
      rcases ends with none | ⟨fault, channel, failed, _⟩
      · exact none
      · rw [failed] at returned
        cases returned
  said := by
    intro accepted said
    rcases ends with none | ⟨fault, channel, failed, _⟩
    · rw [none] at said
      cases said
    · rw [failed] at said
      cases said
  raised := by
    intro fault failed
    rcases ends with none | ⟨other, channel, otherwise, chosen, read⟩
    · rw [none] at failed
      cases failed
    · rw [otherwise] at failed
      cases failed
      exact Or.inl ⟨channel, chosen, read⟩

theorem configured_of_written {channel : Channel} {server modes : Text} {middle : Session}
    {outcome : Except Fault Bool} (chosen : manager.channel? subject = some channel)
    (served : channel.server? = some server)
    (read : Exchange (some channel) [modeQuery] before middle)
    (reading : channel.reading before = .ok (some modes))
    (written : Exchange (some channel) [channel.assignment (SqlMode.merge modes add remove)] middle
      run.2)
    (sense : Says (middle.answer server (channel.assignment (SqlMode.merge modes add remove)))
      outcome) (ends : run.1 = outcome.map some) :
    manager.Configured add remove subject [modeQuery]
      [channel.assignment (SqlMode.merge modes add remove)] before run := by
  let write := channel.assignment (SqlMode.merge modes add remove)
  have answers : ∃ first, manager.answers subject ([modeQuery] ++ [write]) before =
      [first, middle.answer server write] := by
    refine ⟨before.answer server modeQuery, ?_⟩
    have bound : (some channel).bind Channel.server? = some server := served
    rw [ModeManager.answers, chosen, bound]
    exact read.answers_append bound write
  obtain ⟨first, answered⟩ := answers
  generalize middle.answer server write = last at answered sense
  constructor
  · rw [chosen]
    exact read.trans written
  · rw [chosen, Option.elim_some, Channel.queries, served]
    rfl
  · exact Nat.le_refl 1
  · exact Nat.le_refl 1
  · intro statement
    rw [List.mem_singleton]
    constructor
    · exact fun same => ⟨channel, modes, chosen, rfl, reading, same⟩
    · rintro ⟨other, text, otherChosen, _, otherReading, same⟩
      cases chosen.symm.trans otherChosen
      cases reading.symm.trans otherReading
      exact same
  · constructor
    · intro none
      rw [ends] at none
      cases outcome <;> cases none
    · rintro ⟨_, impossible⟩
      cases impossible
  · intro accepted said
    refine ⟨first, last, answered, ?_⟩
    rw [ends] at said
    cases sense with
    | accepted result => cases said; exact Or.inl ⟨rfl, result, rfl⟩
    | refused error => cases said; exact Or.inr ⟨rfl, error, rfl⟩
    | raised failure => cases said
  · intro fault failed
    rw [ends] at failed
    cases sense with
    | accepted result => cases failed
    | refused error => cases failed
    | raised failure => cases failed; exact Or.inr ⟨first, failure, answered, rfl⟩

/-- Where a text was read, the mode that is merged from it is written, and nothing else. -/
theorem configured_of_text {channel : Channel} {server current : Text} {middle : Session}
    (chosen : manager.channel? subject = some channel) (served : channel.server? = some server)
    (read : Exchange (some channel) [modeQuery] before middle)
    (reading : channel.reading before = .ok (some current)) :
    manager.Configured add remove subject [modeQuery]
      [channel.assignment (SqlMode.merge current add remove)] before
      ((do return some (← channel.writeVariable modeVariable
        (.text (SqlMode.merge current add remove))) : Action (Option Bool)) middle) := by
  rw [Action.run_map]
  obtain ⟨written, sense⟩ :=
    Channel.writesMode served (SqlMode.merge current add remove) middle
  exact configured_of_written chosen served read reading written sense rfl

/-- The SQL mode is read once at most and written once at most, on the channel for the subject.
What is written is merged from what was read, and the result tells whether anything was written and
whether the server accepted it. -/
theorem configured_configure (manager : ModeManager) (add remove : List Text) (subject : Subject)
    (before : Session) :
    ∃ reads writes, manager.Configured add remove subject reads writes before
      (manager.configure add remove subject before) := by
  obtain ⟨resolved, resolution, quiet⟩ := manager.run_resolve subject before
  unfold configure
  rw [Action.run_bind_ok _ resolution]
  cases chosen : manager.channel? subject with
  | none =>
    refine ⟨[], [], configured_of_unwritten (quiet _) (by rw [chosen]; rfl) ?_ (Or.inl rfl)⟩
    intro channel modes other
    rw [chosen] at other
    cases other
  | some channel =>
    obtain ⟨exchange, mode⟩ := channel.readsMode resolved
    rw [(quiet none).reading_eq] at mode
    have read := (quiet (some channel)).trans exchange
    have asks : channel.queries = (manager.channel? subject).elim [] Channel.queries := by
      rw [chosen, Option.elim_some]
    have unread (noText : ∀ modes, channel.reading before ≠ .ok (some modes)) :
        ∀ other modes, manager.channel? subject = some other →
          other.reading before ≠ .ok (some modes) := by
      intro other modes same
      cases chosen.symm.trans same
      exact noText modes
    dsimp only
    rw [Action.run_bind]
    generalize channel.readVariable modeVariable resolved = reached at mode read
    rcases reached with ⟨fault | value, middle⟩
    · have failed : channel.reading before = .error fault := mode.symm
      refine ⟨channel.queries, [], configured_of_unwritten (chosen ▸ read) asks
        (unread fun modes text => ?_) (Or.inr ⟨fault, channel, rfl, chosen, failed⟩)⟩
      rw [failed] at text
      cases text
    have noted (level : Level) (message : Text) : Exchange (some channel) channel.queries before
        (Action.report manager.reporter level message middle).2 := by
      have silent : Exchange (some channel) [] middle
          (Action.report manager.reporter level message middle).2 := .nil rfl rfl rfl rfl
      have both := read.trans silent
      rwa [List.append_nil] at both
    cases value with
    | text current =>
      have text : channel.reading before = .ok (some current) := mode.symm
      cases served : channel.server? with
      | none =>
        rw [Channel.reading, served] at text
        cases text
      | some server =>
        rw [Channel.queries, served] at noted
        exact ⟨_, _, configured_of_text chosen served (noted _ _) text⟩
    | _ =>
      have noText : channel.reading before = .ok none := mode.symm
      refine ⟨channel.queries, [], configured_of_unwritten (chosen ▸ noted _ _) asks
        (unread fun modes text => ?_) (Or.inl rfl)⟩
      rw [noText] at text
      cases text

end ModeManager

end DumpRestore
