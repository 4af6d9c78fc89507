/-
This file defines managed connections. A statement on a managed connection that the server refuses
is no fault: the connection remembers the error, reports it, and gives no result. While errors are
suppressed, which is what probes ask for, they are reported for debugging only.
-/

import DumpRestore.Session.Basic
import DumpRestore.Identifier

namespace DumpRestore

/-- A managed connection to a server: the key of its state, and who reports its errors. -/
structure Connection where
  key : ConnectionKey
  server : Text
  reporter : Reporter
deriving Repr, DecidableEq

namespace Connection

/-- The connection to a server that is shared under the name of the server. -/
def shared (server : Text) : Connection :=
  { key := .shared server, server, reporter := .component }

/-! ### State -/

/-- The state of the connection. -/
def standing (connection : Connection) : Action Standing := do
  return (← get).standings connection.key

/-- Changes the state of the connection. -/
def modifyStanding (connection : Connection) (change : Standing → Standing) : Action Unit :=
  modify fun session =>
    { session with
      standings := update session.standings connection.key
        (change (session.standings connection.key)) }

/-- Turns the suppression of errors on or off, and gives the state it had. -/
def suppress (connection : Connection) (value : Bool) : Action Bool := do
  let before ← connection.standing
  connection.modifyStanding fun standing => { standing with suppressed := value }
  return before.suppressed

/-- The current database of the server. -/
def database (connection : Connection) : Action (Option Text) := do
  return ((← get).servers connection.server).database

/-! ### Statements -/

/-- Reports a statement that the server refused. -/
def reportRefusal (connection : Connection) (sql : Text) (error : ServerError) : Action Unit := do
  connection.modifyStanding fun standing => { standing with lastError := error.summary }
  let standing ← connection.standing
  Action.report connection.reporter (if standing.suppressed then .debug else .error)
    ("MySQL query failed: " ++ error.summary ++ " (" ++ sql ++ ")")

/-- Remembers that the connection was given a statement. -/
def rememberAttempt (connection : Connection) (statement : Statement) : Action Unit :=
  modify fun session =>
    { session with attempts := session.attempts ++ [(connection.key, statement)] }

/-- Executes a statement. The result is none where the server refuses the statement. -/
def attempt (connection : Connection) (statement : Statement) : Action (Option ResultSet) := do
  connection.rememberAttempt statement
  connection.modifyStanding fun standing =>
    { standing with lastQuery := statement.sql, lastError := [] }
  match ← Action.catchRefusal (Action.execute connection.server statement) with
  | .ok result => return some result
  | .error error =>
    connection.reportRefusal statement.sql error
    return none

/-- Executes a statement and gives the number of rows it touched. -/
def query (connection : Connection) (sql : Text) (parameters : Option (List Value) := none) :
    Action (Option Nat) := do
  return (← connection.attempt { sql, parameters }).map fun result => result.count.toNat

/-- Executes a query and gives its rows as mappings. A statement without a result set has no
rows. -/
def rows (connection : Connection) (sql : Text) (parameters : Option (List Value) := none) :
    Action (Option (List Row)) := do
  return (← connection.attempt { sql, parameters }).map fun result =>
    (result.rows.getD []).map Row.toMapping

/-- The first value of the first row of a query, null where there is none. -/
def value (connection : Connection) (sql : Text) (parameters : Option (List Value) := none) :
    Action Value := do
  match ← connection.rows sql parameters with
  | some (row :: _) => return row.first
  | _ => return .null

/-! ### Session variables -/

/-- The value of a session variable: false where its name is not plain or the server refuses the
query, and null where the server gives no value. -/
def readVariable (connection : Connection) (name : Text) : Action Value := do
  if Identifier.isPlain name then
    match ← connection.rows ("SELECT @@SESSION." ++ name) with
    | none => return .bool false
    | some [] => return .null
    | some (row :: _) => Action.decode row.first
  else
    Action.report connection.reporter .warning
      ("Refusing to read session variable with invalid name " ++ Text.quoted name)
    return .bool false

/-- Sets a session variable; the result says whether the server accepted it. -/
def writeVariable (connection : Connection) (name : Text) (value : Value) : Action Bool := do
  if Identifier.isPlain name then
    return (← connection.query ("SET SESSION " ++ name ++ " = %s") (some [value])).isSome
  else
    Action.report connection.reporter .warning
      ("Refusing to write session variable with invalid name " ++ Text.quoted name)
    return false

end Connection

end DumpRestore
