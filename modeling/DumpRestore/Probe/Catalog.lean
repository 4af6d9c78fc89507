/-
This file reads the catalog of a database: its stored routines with the statements that create
them, and whether the primary key of a table has more than one column. Routines are read all or
not at all.
-/

import DumpRestore.Probe.Inspector
import DumpRestore.Text.Case

namespace DumpRestore.Inspector

/-! ### Stored routines -/

/-- The last error and the last statement of a connection, as failures name them. -/
def lastAttempt (standing : Standing) : Text :=
  "(" ++ standing.lastError ++ " - " ++ standing.lastQuery ++ ")"

/-- A failure of the last statement of a connection. -/
def failureOf (standing : Standing) (kind message : Text) : QueryFailure :=
  { kind
    message := message ++ " " ++ lastAttempt standing
    lastError := some standing.lastError
    statement := some standing.lastQuery }

/-- The rows of a query, or a failure of a kind where the server refuses it. -/
def rowsOrFail (inspector : Inspector) (kind message sql : Text)
    (parameters : Option (List Value)) : Action (List Row) := do
  match ← inspector.connection.rows sql parameters with
  | some rows => return rows
  | none => throw (.queryFailed (failureOf (← inspector.connection.standing) kind message))

/-- The status rows of the routines of a kind in the current database. -/
def routineStatus (inspector : Inspector) (kind : RoutineKind) : Action (List Row) := do
  let database : Value := match ← inspector.connection.database with
    | some name => .text name
    | none => .null
  inspector.rowsOrFail "routine_status_error"
    "An error occurred while attempting to retrieve routine status"
    ("SHOW " ++ kind.keyword ++ " STATUS WHERE Db = %s") (some [database])

/-- The kind of routine that a status row names. -/
def kindOf? (status : Row) : Option RoutineKind :=
  RoutineKind.ofKeyword? (Text.upper ((status.get "Type").orElse (.text [])).toText)

/-- The routine of a status row, none where the row has no name or no known kind. -/
def describeRoutine (inspector : Inspector) (status : Row) : Action (Option Routine) := do
  let name := status.get "Name"
  match (if name.isTruthy then kindOf? status else none) with
  | none =>
    Action.report inspector.reporter .debug
      ("Skipping routine status row without a name or a known type: " ++ status.literal)
    return none
  | some kind =>
    let definition ← inspector.rowsOrFail "routine_sql_error"
      "An error occurred while attempting to retrieve the routine SQL/DDL statement"
      ("SHOW CREATE " ++ kind.keyword ++ " " ++ Identifier.backquote name.toText) none
    return some { name := name.toText, kind, status, definition := definition.head?.getD [] }

/-- The routines of status rows in order. -/
def describeRoutines (inspector : Inspector) : List Row → Action (List Routine)
  | [] => return []
  | status :: statuses => do
    let routine ← inspector.describeRoutine status
    let routines ← inspector.describeRoutines statuses
    return routine.toList ++ routines

/-- An action whose failed query is reported. -/
def reportingFailure {Result : Type} (inspector : Inspector) (action : Action Result) :
    Action Result :=
  tryCatch action fun
    | .queryFailed failure => do
      Action.report inspector.reporter .error failure.message
      throw (.queryFailed failure)
    | fault => throw fault

/-- The stored functions of the current database, then its procedures. -/
def storedRoutines (inspector : Inspector) : Action (List Routine) :=
  inspector.suppressed none <| inspector.reportingFailure do
    let functions ← inspector.routineStatus .function
    let procedures ← inspector.routineStatus .procedure
    inspector.describeRoutines (functions ++ procedures)

/-! ### Keys -/

/-- Whether a row of a table description names a column of the primary key. -/
def isPrimaryKeyColumn (row : Row) : Bool :=
  match row.get "Key" with
  | .text key => key == "PRI".toList
  | _ => false

/-- Whether the primary key of a table has more than one column. The table is described on the given
connection, or on that of the inspector where none is given. -/
def hasCompositePrimaryKey (inspector : Inspector) (table : Text)
    (connection : Option Connection) : Action Bool := do
  let rows ← (connection.getD inspector.connection).rows
    ("DESCRIBE " ++ Identifier.backquote table)
  return 1 < ((rows.getD []).filter isPrimaryKeyColumn).length

end DumpRestore.Inspector
