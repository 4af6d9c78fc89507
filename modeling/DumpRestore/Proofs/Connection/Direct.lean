/-
This file says what becomes of an error that a server reports to a direct connection. A read handles
it wherever it occurs, at the cursor or at the statement, and gives false. A write handles it at the
statement only: its cursor is opened before errors are handled, so that an error there is raised. A
write therefore reports errors as false exactly where no cursor is refused.
-/

import DumpRestore.Proofs.Connection.Modes

namespace DumpRestore

/-! ### Refusals -/

namespace Session

variable (server : Text) (statement : Statement) (error : ServerError) (session : Session)

/-- A server refuses to open a cursor. -/
def RefusesCursor : Prop :=
  (session.servers server).respond (session.received server) .openCursor = .error (.refused error)

/-- A server opens a cursor and refuses the statement that is executed on it. -/
def RefusesStatement : Prop :=
  (∃ cursor, (session.servers server).respond (session.received server) .openCursor =
    .ok cursor) ∧
  (session.servers server).respond (.openCursor :: session.received server)
    (.execute statement) = .error (.refused error)

theorem answer_refused_iff :
    session.answer server statement = .error (.refused error) ↔
      session.RefusesCursor server error ∨ session.RefusesStatement server statement error := by
  unfold answer Server.ask RefusesCursor RefusesStatement
  cases (session.servers server).respond (session.received server) .openCursor with
  | error failure => simp
  | ok cursor => simp

end Session

namespace Action

/-- Decoding is no refusal, and gives false for false alone. -/
theorem decode_eq_false_iff (value : Value) (session : Session) :
    (decode value session).1 = .ok (.bool false) ↔ value = .bool false := by
  cases value with
  | bytes content | buffer content =>
    unfold decode
    dsimp only
    cases Text.ofUtf8 content <;> exact iff_of_false nofun nofun
  | bool flag => exact ⟨fun same => Except.ok.inj same, congrArg Except.ok⟩
  | null | int | decimal | text | list => exact iff_of_false nofun nofun

theorem decode_ne_refused (value : Value) (session : Session) (error : ServerError) :
    (decode value session).1 ≠ .error (.refused error) := by
  cases value with
  | bytes content | buffer content =>
    unfold decode
    dsimp only
    cases Text.ofUtf8 content <;> exact nofun
  | null | bool | int | decimal | text | list => exact nofun

end Action

namespace DirectConnection

variable (connection : DirectConnection) (name : Text) (value : Value) (session : Session)

/-- A connection fails with a statement where its handle is not supported, and where its server
refuses a cursor or the statement. -/
def Fails (statement : Statement) : Prop :=
  connection.supportedHandle? = none ∨
    ∃ handle error, connection.supportedHandle? = some handle ∧
      (session.RefusesCursor handle.server error ∨
        session.RefusesStatement handle.server statement error)

/-- The server of a connection refuses to open a cursor. -/
def CursorRefused : Prop :=
  ∃ handle error, connection.supportedHandle? = some handle ∧
    session.RefusesCursor handle.server error

/-- The server of a connection gives false as the value of a variable. -/
def AnswersFalse : Prop :=
  ∃ handle result, connection.supportedHandle? = some handle ∧
    session.answer handle.server (query name) = .ok result ∧
    (Channel.direct connection).firstValue result = .bool false

/-- An outcome reports the errors of a server: it is none of them, and it is a certain value exactly
where something failed. -/
def Reports {Result : Type} (no : Result) (failed : Prop) (outcome : Except Fault Result) : Prop :=
  (∀ error, outcome ≠ .error (.refused error)) ∧ (outcome = .ok no ↔ failed)

/-! ### Reading -/

/-- A read reports all errors. It also gives false where the server does. -/
theorem reports_readVariable :
    Reports (.bool false)
      (connection.Fails session (query name) ∨ connection.AnswersFalse name session)
      (connection.readVariable name session).1 := by
  unfold Reports Fails AnswersFalse
  cases supported : connection.supportedHandle? with
  | none =>
    rw [run_readVariable_unsupported name session supported]
    exact ⟨nofun, iff_of_true rfl (.inl (.inl rfl))⟩
  | some handle =>
    rw [run_readVariable name session supported]
    simp only [← Session.answer_refused_iff, Option.some_inj, exists_eq_left', reduceCtorEq,
      false_or, exists_and_left]
    cases session.answer handle.server (query name) with
    | ok result =>
      refine ⟨Action.decode_ne_refused _ _, ?_⟩
      simpa using Action.decode_eq_false_iff ((Channel.direct connection).firstValue result)
        (session.asked handle.server (query name))
    | error failure =>
      cases failure with
      | refused error => exact ⟨nofun, iff_of_true rfl (.inl ⟨error, rfl⟩)⟩
      | crashed crash => exact ⟨nofun, iff_of_false nofun (by simp)⟩

/-! ### Writing -/

/-- A write reports all errors exactly where no cursor is refused. -/
theorem reports_writeVariable_iff :
    Reports false (connection.Fails session { sql := assignment name value })
        (connection.writeVariable name value session).1 ↔
      ¬ connection.CursorRefused session := by
  unfold Reports Fails CursorRefused Session.RefusesCursor Session.RefusesStatement
  cases supported : connection.supportedHandle? with
  | none =>
    rw [run_writeVariable_unsupported name value session supported]
    exact iff_of_true ⟨nofun, iff_of_true rfl (.inl rfl)⟩ (by simp)
  | some handle =>
    rw [run_writeVariable name value session supported]
    simp only [Option.some_inj, exists_eq_left', reduceCtorEq, false_or, exists_and_left]
    cases (session.servers handle.server).respond (session.received handle.server)
        .openCursor with
    | error failure =>
      cases failure with
      | refused error =>
        exact iff_of_false (fun reports => reports.1 error rfl) fun calm => calm ⟨error, rfl⟩
      | crashed crash =>
        exact iff_of_true ⟨nofun, iff_of_false nofun (by simp)⟩ (by simp)
    | ok cursor =>
      refine iff_of_true ?_ (by simp)
      cases (session.servers handle.server).respond
          (.openCursor :: session.received handle.server)
          (.execute { sql := assignment name value }) with
      | ok result => exact ⟨nofun, iff_of_false nofun (by simp)⟩
      | error failure =>
        cases failure with
        | refused error => exact ⟨nofun, iff_of_true rfl ⟨error, .inr ⟨⟨cursor, rfl⟩, rfl⟩⟩⟩
        | crashed crash => exact ⟨nofun, iff_of_false nofun (by simp)⟩

/-- A read reports every error of a server as false. A write does exactly where no cursor is
refused. -/
theorem refusals_reported_iff :
    Reports (.bool false)
        (connection.Fails session (query name) ∨ connection.AnswersFalse name session)
        (connection.readVariable name session).1 ∧
      (Reports false (connection.Fails session { sql := assignment name value })
          (connection.writeVariable name value session).1 ↔
        ¬ connection.CursorRefused session) :=
  ⟨connection.reports_readVariable name session,
    connection.reports_writeVariable_iff name value session⟩

/-- On a server that refuses cursors a read gives false, and a write raises the refusal. -/
theorem not_reported_cursor :
    let refusal : ServerError := { message := some "gone", description := "2006: gone" }
    let server : Server := { respond := fun _ _ => .error (.refused refusal) }
    let session : Session := { servers := fun _ => server, clock := [], random := 0 }
    let connection : DirectConnection :=
      { handle := some { server := "main", kind := .dedicated }, reporter := .component }
    (connection.readVariable "sql_mode" session).1 = .ok (.bool false) ∧
      (connection.writeVariable "sql_mode" (.text "ANSI") session).1 =
        .error (.refused refusal) ∧
      ¬ Reports false (connection.Fails session { sql := assignment "sql_mode" (.text "ANSI") })
        (connection.writeVariable "sql_mode" (.text "ANSI") session).1 := by
  intro refusal server session connection
  exact ⟨rfl, rfl, fun reports => reports.1 refusal rfl⟩

end DirectConnection

end DumpRestore
