/-
This file accounts for every run of a managed connection. An inquiry gives at most one statement to
the server, and the answer settles what the inquiry gives, what the connection remembers and what is
logged: a refusal is remembered, logged once and given as nothing, a crash is raised, and a result
leaves no error behind. An inquiry with a name that is no plain one is declined without a statement.
No inquiry turns suppression on or off, so that in a run it is what was set last.
-/

import DumpRestore.Proofs.Connection.Modes

namespace DumpRestore

/-! ### Records of the log -/

namespace Journal

theorem records_write (bytes : List UInt8) (writers : List LogWriter) (journal : Journal) :
    (write bytes writers journal).2.records = journal.records := by
  induction writers generalizing journal with
  | nil => rfl
  | cons writer writers inductionHypothesis => exact inductionHypothesis _

theorem records_add (reporter : Reporter) (record : Record) (journal : Journal) :
    (journal.add reporter record).records = journal.records ++ [record] := by
  cases reporter with
  | toolkit => exact records_write _ _ _
  | component => rfl

end Journal

/-! ### Calls -/

/-- A call that may give a statement to the server. -/
inductive Inquiry where
  | query (sql : Text) (parameters : Option (List Value))
  | rows (sql : Text) (parameters : Option (List Value))
  | value (sql : Text) (parameters : Option (List Value))
  | readVariable (name : Text)
  | writeVariable (name : Text) (setting : Value)

/-- What an inquiry gives: how many rows were touched, the rows, a value, or whether the value of a
variable was accepted. -/
inductive Reply where
  | count (count : Option Nat)
  | rows (rows : Option (List Row))
  | value (value : Value)
  | accepted (accepted : Bool)

/-- A call of a managed connection: an inquiry, or the suppression of errors. -/
inductive Call where
  | inquire (inquiry : Inquiry)
  | suppress (value : Bool)

namespace Inquiry

/-- Makes the call. -/
def perform (connection : Connection) : Inquiry → Action Reply
  | .query sql parameters => do return .count (← connection.query sql parameters)
  | .rows sql parameters => do return .rows (← connection.rows sql parameters)
  | .value sql parameters => do return .value (← connection.value sql parameters)
  | .readVariable name => do return .value (← connection.readVariable name)
  | .writeVariable name setting => do return .accepted (← connection.writeVariable name setting)

/-- The statement of an inquiry. There is none for a variable whose name is not plain. -/
def statement? : Inquiry → Option Statement
  | .query sql parameters => some { sql, parameters }
  | .rows sql parameters => some { sql, parameters }
  | .value sql parameters => some { sql, parameters }
  | .readVariable name =>
    if Identifier.isPlain name then some { sql := "SELECT @@SESSION." ++ name } else none
  | .writeVariable name setting =>
    if Identifier.isPlain name then
      some { sql := "SET SESSION " ++ name ++ " = %s", parameters := some [setting] }
    else none

/-- What an inquiry gives for the result of its statement. A value that is read may be bytes that do
not decode. -/
def reply (connection : Connection) (result : ResultSet) : Inquiry → Except Fault Reply
  | .query _ _ => .ok (.count (some (max result.count 0).toNat))
  | .rows _ _ => .ok (.rows (some ((result.rows.getD []).map Row.toMapping)))
  | .value _ _ => .ok (.value ((Channel.managed connection).firstValue result))
  | .readVariable _ => ((Channel.managed connection).firstValue result).decoded.map .value
  | .writeVariable _ _ => .ok (.accepted true)

/-- What an inquiry gives where there is no result. -/
def refusal : Inquiry → Reply
  | .query _ _ => .count none
  | .rows _ _ => .rows none
  | .value _ _ => .value .null
  | .readVariable _ => .value (.bool false)
  | .writeVariable _ _ => .accepted false

variable (connection : Connection) (inquiry : Inquiry) (session : Session)

/-- An inquiry attempts its statement and gives what the result of the attempt stands for. -/
theorem perform_eq_attempt (statement : Statement) (asks : inquiry.statement? = some statement) :
    inquiry.perform connection session =
      match connection.attempt statement session with
      | (.ok none, after) => (.ok inquiry.refusal, after)
      | (.ok (some result), after) => (inquiry.reply connection result, after)
      | (.error fault, after) => (.error fault, after) := by
  cases inquiry with
  | query sql parameters =>
    cases asks
    rw [perform, Action.run_map, Connection.query, Action.run_map]
    rcases connection.attempt { sql, parameters } session with ⟨fault | _ | result, after⟩
    · rfl
    · rfl
    · have clamped : result.count.toNat = (max result.count 0).toNat := by omega
      exact congrArg (fun count => (Except.ok (Reply.count (some count)), after)) clamped
  | rows sql parameters =>
    cases asks
    rw [perform, Action.run_map, Connection.rows, Action.run_map]
    rcases connection.attempt { sql, parameters } session with ⟨fault | _ | result, after⟩ <;> rfl
  | value sql parameters =>
    cases asks
    rw [perform, Action.run_map, Connection.value, Action.run_bind, Connection.rows,
      Action.run_map]
    rcases connection.attempt { sql, parameters } session with ⟨fault | _ | ⟨rows, count⟩, after⟩
    · rfl
    · rfl
    · rcases rows with _ | _ | ⟨row, rows⟩ <;> rfl
  | readVariable name =>
    rw [statement?] at asks
    obtain ⟨plain, asks⟩ := Option.ite_none_right_eq_some.mp asks
    cases asks
    rw [perform, Action.run_map, connection.run_readVariable name session plain]
    rcases connection.attempt { sql := "SELECT @@SESSION." ++ name } session with
      ⟨fault | _ | result, after⟩
    · rfl
    · rfl
    · dsimp only
      rw [Action.run_decode]
      rfl
  | writeVariable name setting =>
    rw [statement?] at asks
    obtain ⟨plain, asks⟩ := Option.ite_none_right_eq_some.mp asks
    cases asks
    rw [perform, Action.run_map, connection.run_writeVariable name setting session plain]
    rcases connection.attempt
        { sql := "SET SESSION " ++ name ++ " = %s", parameters := some [setting] } session with
      ⟨fault | _ | result, after⟩ <;> rfl

/-- What comes of an inquiry is settled by the answer to its statement. -/
theorem run_perform (statement : Statement) (asks : inquiry.statement? = some statement) :
    inquiry.perform connection session =
      let reached := (connection.given statement session).asked connection.server statement
      match session.answer connection.server statement with
      | .ok result => (inquiry.reply connection result, reached)
      | .error (.refused error) =>
        (.ok inquiry.refusal, (connection.reportRefusal statement.sql error reached).2)
      | .error (.crashed crash) => (.error (.crashed crash), reached) := by
  rw [inquiry.perform_eq_attempt connection session statement asks, connection.run_attempt]
  unfold Session.answer
  rcases ((session.servers connection.server).ask (session.received connection.server)
    statement).1 with (error | crash) | result <;> rfl

/-- An inquiry without a statement is declined with a warning. -/
theorem run_perform_declined (declines : inquiry.statement? = none) :
    ∃ message, inquiry.perform connection session = (.ok inquiry.refusal,
      (Action.report connection.reporter .warning message session).2) := by
  have unplain {name : Text} {statement : Statement}
      (declines : (if Identifier.isPlain name then some statement else none) = none) :
      ¬ Identifier.isPlain name = true := fun plain =>
    Option.some_ne_none statement ((if_pos plain).symm.trans declines)
  cases inquiry with
  | query | rows | value => cases declines
  | readVariable name =>
    rw [perform, Action.run_map, Connection.readVariable, if_neg (unplain declines)]
    exact ⟨_, rfl⟩
  | writeVariable name setting =>
    rw [perform, Action.run_map, Connection.writeVariable, if_neg (unplain declines)]
    exact ⟨_, rfl⟩

end Inquiry

/-! ### What an inquiry comes to -/

namespace Connection

variable (connection : Connection) (inquiry : Inquiry) (session : Session)

/-- The record of a statement that is refused: one for debugging while errors are suppressed, and an
error otherwise. -/
def refusalRecord (statement : Statement) (error : ServerError) : Record where
  level := if (session.standings connection.key).suppressed then .debug else .error
  message := "MySQL query failed: " ++ error.summary ++ " (" ++ statement.sql ++ ")"

/-- A statement was attempted between two sessions: it is the last one of the connection, with the
text of its error, and records were logged. Suppression is as it was. -/
structure Attempted (statement : Statement) (error : Text) (records : List Record)
    (before after : Session) : Prop where
  attempts : after.attempts = before.attempts ++ [(connection.key, statement)]
  standing : after.standings connection.key =
    { before.standings connection.key with lastError := error, lastQuery := statement.sql }
  log : after.journal.records = before.journal.records ++ records

theorem attempted_asked (statement : Statement) :
    connection.Attempted statement [] [] session
      ((connection.given statement session).asked connection.server statement) := by
  have standing := connection.standings_asked statement session
  obtain ⟨sent, _, reached⟩ :=
    Session.asked_eq connection.server statement (connection.given statement session)
  rw [reached] at standing ⊢
  exact ⟨rfl, standing, (List.append_nil _).symm⟩

/-- A refusal is remembered and logged once, under the suppression of that moment. -/
theorem attempted_refused (statement : Statement) (error : ServerError) :
    connection.Attempted statement error.summary
      [connection.refusalRecord session statement error] session
      (connection.reportRefusal statement.sql error
        ((connection.given statement session).asked connection.server statement)).2 := by
  have asked := connection.attempted_asked session statement
  generalize (connection.given statement session).asked connection.server statement = reached
    at asked ⊢
  have standing := connection.standings_reportRefusal statement.sql error reached
  rw [asked.standing] at standing
  -- Suppression is read when the error has been remembered, and is what it was before.
  have logged : (connection.reportRefusal statement.sql error reached).2.journal =
      reached.journal.add connection.reporter
        { connection.refusalRecord session statement error with
          level := if ((connection.reportRefusal statement.sql error reached).2.standings
            connection.key).suppressed then .debug else .error } := rfl
  rw [standing] at logged
  refine ⟨asked.attempts, standing, ?_⟩
  rw [logged, Journal.records_add, asked.log, List.append_nil]
  rfl

/-- What becomes of an inquiry. -/
structure Accounted (before : Session) (outcome : Except Fault Reply) (after : Session) : Prop where
  /-- A result is what is given, and leaves no error behind. -/
  answered : ∀ statement result, inquiry.statement? = some statement →
    before.answer connection.server statement = .ok result →
    outcome = inquiry.reply connection result ∧
      connection.Attempted statement [] [] before after
  /-- A refusal is given as nothing, and is remembered and logged. -/
  refused : ∀ statement error, inquiry.statement? = some statement →
    before.answer connection.server statement = .error (.refused error) →
    outcome = .ok inquiry.refusal ∧
      connection.Attempted statement error.summary
        [connection.refusalRecord before statement error] before after
  /-- A crash is raised, and is neither remembered nor logged. -/
  crashed : ∀ statement crash, inquiry.statement? = some statement →
    before.answer connection.server statement = .error (.crashed crash) →
    outcome = .error (.crashed crash) ∧ connection.Attempted statement [] [] before after
  /-- Nothing but a warning comes of an inquiry that has no statement. -/
  declined : inquiry.statement? = none →
    outcome = .ok inquiry.refusal ∧ ∃ journal message,
      after = { before with journal } ∧
        journal.records = before.journal.records ++ [{ level := .warning, message }]

theorem accounted : connection.Accounted inquiry session (inquiry.perform connection session).1
    (inquiry.perform connection session).2 := by
  constructor
  · intro statement result asks answer
    rw [inquiry.run_perform connection session statement asks, answer]
    exact ⟨rfl, connection.attempted_asked session statement⟩
  · intro statement error asks answer
    rw [inquiry.run_perform connection session statement asks, answer]
    exact ⟨rfl, connection.attempted_refused session statement error⟩
  · intro statement crash asks answer
    rw [inquiry.run_perform connection session statement asks, answer]
    exact ⟨rfl, connection.attempted_asked session statement⟩
  · intro declines
    obtain ⟨message, run⟩ := inquiry.run_perform_declined connection session declines
    rw [run]
    exact ⟨rfl, _, message, rfl, Journal.records_add _ _ _⟩

variable {connection inquiry session}

/-- Whatever the answer is, the statement of an inquiry is attempted. -/
theorem Accounted.attempted {outcome : Except Fault Reply} {after : Session}
    (accounted : connection.Accounted inquiry session outcome after) {statement : Statement}
    (asks : inquiry.statement? = some statement) :
    ∃ error records, connection.Attempted statement error records session after := by
  rcases answer : session.answer connection.server statement with (error | crash) | result
  · exact ⟨_, _, (accounted.refused statement error asks answer).2⟩
  · exact ⟨_, _, (accounted.crashed statement crash asks answer).2⟩
  · exact ⟨_, _, (accounted.answered statement result asks answer).2⟩

end Connection

/-! ### Runs -/

namespace Call

variable (connection : Connection)

/-- The session after a call, whatever the call gave. -/
def after (session : Session) : Call → Session
  | .inquire inquiry => (inquiry.perform connection session).2
  | .suppress value => (connection.suppress value session).2

/-- What a call sets the suppression of errors to. -/
def setting? : Call → Option Bool
  | .inquire _ => none
  | .suppress value => some value

/-- The text of the statement that a call attempts. -/
def sql? : Call → Option Text
  | .inquire inquiry => inquiry.statement?.map Statement.sql
  | .suppress _ => none

end Call

namespace Connection

variable (connection : Connection) (session : Session)

/-- The session after calls one after the other. -/
def afterAll (calls : List Call) : Session :=
  calls.foldl (Call.after connection) session

/-- Turning suppression on or off gives the state it had, and changes nothing else. -/
theorem run_suppress (value : Bool) :
    connection.suppress value session = (.ok (session.standings connection.key).suppressed,
      { session with
        standings := update session.standings connection.key
          { session.standings connection.key with suppressed := value } }) := rfl

/-- A call changes suppression if it sets it, and the last statement if it attempts one. -/
theorem standing_after (call : Call) :
    ((call.after connection session).standings connection.key).suppressed =
        call.setting?.getD (session.standings connection.key).suppressed ∧
      ((call.after connection session).standings connection.key).lastQuery =
        call.sql?.getD (session.standings connection.key).lastQuery := by
  cases call with
  | suppress value =>
    have stands : ((Call.suppress value).after connection session).standings connection.key =
        { session.standings connection.key with suppressed := value } := update_self _ _ _
    rw [stands]
    exact ⟨rfl, rfl⟩
  | inquire inquiry =>
    have accounted := connection.accounted inquiry session
    rw [Call.after, Call.sql?]
    cases asks : inquiry.statement? with
    | none =>
      obtain ⟨_, journal, _, after, _⟩ := accounted.declined asks
      rw [after]
      exact ⟨rfl, rfl⟩
    | some statement =>
      obtain ⟨_, _, attempted⟩ := accounted.attempted asks
      rw [attempted.standing]
      exact ⟨rfl, rfl⟩

/-- What each call either sets or leaves as it is has been set last in a run, or never. -/
theorem part_afterAll {Item : Type} (part : Standing → Item) (sets? : Call → Option Item)
    (step : ∀ session call, part ((call.after connection session).standings connection.key) =
      (sets? call).getD (part (session.standings connection.key))) (calls : List Call) :
    part ((connection.afterAll session calls).standings connection.key) =
      (calls.filterMap sets?).getLastD (part (session.standings connection.key)) := by
  induction calls generalizing session with
  | nil => rfl
  | cons call calls inductionHypothesis =>
    refine (inductionHypothesis (call.after connection session)).trans ?_
    rw [step, List.filterMap_cons]
    cases sets? call with
    | none => rfl
    | some item => exact List.getLastD_cons.symm

/-- In every run every call is accounted for. Suppression and the last statement are those that were
set last before the call, and suppression is given back by a call that sets it. -/
theorem calls_accounted (earlier : List Call) :
    let before := connection.afterAll session earlier
    let lastSet := (earlier.filterMap Call.setting?).getLastD
      (session.standings connection.key).suppressed
    (before.standings connection.key).suppressed = lastSet ∧
      (before.standings connection.key).lastQuery =
        (earlier.filterMap Call.sql?).getLastD (session.standings connection.key).lastQuery ∧
      (∀ inquiry, connection.Accounted inquiry before (inquiry.perform connection before).1
        (inquiry.perform connection before).2) ∧
      ∀ value, connection.suppress value before = (.ok lastSet,
        { before with
          standings := update before.standings connection.key
            { before.standings connection.key with suppressed := value } }) := by
  intro before lastSet
  have suppressed : (before.standings connection.key).suppressed = lastSet :=
    connection.part_afterAll session Standing.suppressed Call.setting?
      (fun session call => (connection.standing_after session call).1) earlier
  have lastQuery := connection.part_afterAll session Standing.lastQuery Call.sql?
    (fun session call => (connection.standing_after session call).2) earlier
  refine ⟨suppressed, lastQuery, fun inquiry => connection.accounted inquiry before,
    fun value => ?_⟩
  rw [← suppressed]
  exact connection.run_suppress before value

end Connection

end DumpRestore
