/-
This file defines the toolkit of a backup or a restore. It opens the log, takes or opens a
connection, and puts together the parts of the library that work on it: the order of tables, the
SQL mode, and the inspector with a cache of its own.
-/

import DumpRestore.Probe.Catalog
import DumpRestore.Probe.Columns
import DumpRestore.Probe.Routines
import DumpRestore.Toolkit.Settings
import DumpRestore.Version

namespace DumpRestore

/-- A toolkit: the key of what it knows of the version of its server, its connection, and its
parts. -/
structure Toolkit where
  key : Nat
  connection : Connection
  order : TableOrder
  modes : ModeManager
  inspector : Inspector

namespace Toolkit

/-! ### Opening -/

/-- Opens the log: a screen unless the toolkit is quiet, and a log file where one is named. -/
def openLog (settings : Settings) : Action Unit := do
  if !settings.quiet.isTruthy then
    modify fun session => { session with journal := session.journal.openScreen }
  match Settings.given? settings.logFile with
  | some path => modify fun session => { session with journal := session.journal.openFile path }
  | none => pure ()

/-- A managed connection of its own on a server. -/
def ownConnection (server : Text) : Action Connection := do
  return { key := .own (← Action.freshKey), server, reporter := .toolkit }

/-- Opens a connection to a server. An error that the server reports is logged. -/
def connect (settings : Settings) (server : Text) : Action Connection := do
  let login ← liftExcept settings.login
  modify fun session => { session with logins := session.logins ++ [login] }
  let target := (← get).servers server
  match target.connectFailure with
  | some (.refused error) =>
    Action.report .toolkit .error error.description
    throw (.refused error)
  | some (.crashed crash) => throw (.crashed crash)
  | none =>
    if target.isConnected then ownConnection server else throw .notConnected
where
  /-- A value or a fault as an action. -/
  liftExcept {Result : Type} : Except Fault Result → Action Result
    | .ok result => return result
    | .error fault => throw fault

/-- The connection that the settings give, or a new one to a server. -/
def chooseConnection (settings : Settings) (server : Text) : Action Connection :=
  match settings.connection with
  | .absent => connect settings server
  | .channel (.managed connection) => return connection
  | .handle handle =>
    if handle.isSupported then ownConnection handle.server else throw .unsupportedConnection
  | _ => throw .unsupportedConnection

/-- Starts what a toolkit remembers under its key, with no results of probes and with no knowledge of
the version of its server. -/
def startMemory (key : Nat) : Action Unit :=
  modify fun session =>
    { session with
      caches := update session.caches key {}
      versions := update session.versions key {} }

/-- Opens a toolkit. A new connection leads to `server`. -/
def new (settings : Settings) (server : Text) : Action Toolkit := do
  openLog settings
  let connection ← chooseConnection settings server
  let key ← Action.freshKey
  startMemory key
  match TableOrder.complaint? settings.coreTables with
  | some complaint => Action.report .toolkit .debug complaint
  | none => pure ()
  return {
    key, connection
    order := settings.tableOrder
    modes := { default := some (.managed connection), reporter := .toolkit }
    inspector := {
      connection, cache := key
      tablePrefix := settings.tablePrefixText
      reporter := .toolkit } }

/-! ### Version -/

/-- The version that the server reports, none where it reports none. -/
def askVersion (toolkit : Toolkit) : Action (Option Text) := do
  match ← toolkit.connection.rows "SHOW VARIABLES LIKE 'version'" with
  | some (row :: _) => return some (row.get "Value").toText
  | _ =>
    let standing ← toolkit.connection.standing
    Action.report .toolkit .error
      ("MySQL failed checking for the server version: " ++ standing.lastError)
    return none

/-- Remembers the version that the server reported. -/
def rememberVersion (toolkit : Toolkit) (reported : Text) : Action Unit :=
  modify fun session =>
    { session with
      versions := update session.versions toolkit.key
        { reported := some reported, isMariaDb := Version.isMariaDb reported } }

/-- The version of the server as it reports it. It is asked for until it is known; a version that
cannot be read is a fault when it is asked for, and is known from then on. -/
def version (toolkit : Toolkit) : Action (Option Text) := do
  match ((← get).versions toolkit.key).reported with
  | some reported => return some reported
  | none =>
    match ← toolkit.askVersion with
    | none => return none
    | some reported =>
      toolkit.rememberVersion reported
      match Version.ofServer reported with
      | .error flaw => throw (.invalidVersion flaw)
      | .ok number =>
        let product : Text := if Version.isMariaDb reported then "MariaDB" else "MySQL"
        Action.report .toolkit .debug
          ("Connected to " ++ product ++ " " ++ number.toText)
        return some reported

/-- Whether the server is MariaDB. -/
def isMariaDb (toolkit : Toolkit) : Action Bool := do
  match ← toolkit.version with
  | none => return false
  | some _ => return ((← get).versions toolkit.key).isMariaDb

/-! ### Tables and columns -/

/-- The table that a row of a table listing names, none where the row has no type. -/
def listedTable? : Row → Option Table
  | (_, name) :: (_, type) :: _ =>
    some {
      name := name.toText
      type := if Text.upper type.toText == "VIEW".toList then "VIEW" else "TABLE" }
  | _ => none

/-- The tables and views of the current database in dump order. -/
def listTables (toolkit : Toolkit) : Action (List Table) := do
  match ← toolkit.connection.rows "SHOW FULL TABLES" with
  | none => return []
  | some rows => return toolkit.order.sort (rows.filterMap listedTable?)

/-- The statement that makes a generated column of a table a stored one, none where the server does
not support generated columns with the storage engine. -/
def convertToStored (toolkit : Toolkit) (table : Text) (column : Column) (engine : Text) :
    Action (Option Text) := do
  return (← toolkit.inspector.columnSupport engine).map (column.alterToStored table)

end Toolkit

end DumpRestore
