/-
This file defines the commands of the program. Four of them connect to a server and show what they
find in grids; the fifth reads a dump and needs no server.
-/

import DumpRestore.CommandLine.Group
import DumpRestore.Dump
import DumpRestore.Grid.Draw
import DumpRestore.Toolkit.Basic

namespace DumpRestore.CommandLine

/-! ### Commands and their options -/

/-- The commands of the program. -/
inductive Command where
  | probe
  | routines
  | tables
  | sqlMode
  | parse
deriving Repr, DecidableEq

namespace Command

/-- The name of a command. -/
def name : Command → Text
  | .probe => "probe"
  | .routines => "routines"
  | .tables => "tables"
  | .sqlMode => "sql-mode"
  | .parse => "parse"

/-- All commands. -/
def all : List Command := [.probe, .routines, .tables, .sqlMode, .parse]

/-- The command with a name. -/
def ofName? (text : Text) : Option Command :=
  all.find? fun command => command.name == text

/-- The options of a command, help left out. -/
def options : Command → List OptionSpec
  | .probe => [{ key := "engine", names := ["-e", "--engine"] }]
  | .routines => [{ key := "show-sql", names := ["--show-sql"], takesValue := false }]
  | .tables => []
  | .sqlMode => [
    { key := "add", names := ["-a", "--add"] },
    { key := "remove", names := ["-r", "--remove"] }]
  | .parse => [
    { key := "alter", names := ["--alter"], takesValue := false },
    { key := "mariadb", names := ["--mariadb"], takesValue := false }]

/-- The command as its arguments are read. -/
def spec (command : Command) : CommandSpec :=
  { path := programCall ++ " " ++ command.name
    usage := match command with
      | .parse => "[OPTIONS] SQL_FILE"
      | _ => "[OPTIONS]"
    options := command.options ++ [{ key := "help", names := ["--help"], takesValue := false }] }

end Command

/-- Opens the toolkit of a command. A new connection leads to the server that is called main. -/
def openToolkit (settings : Settings) : Run Toolkit :=
  Run.perform (Toolkit.new settings "main")

/-- Shows a grid. -/
def showGrid (headers : List Text) (rows : List (List Value)) : Run Unit :=
  match Grid.render headers rows with
  | .ok grid => Run.print grid
  | .error flaw => throw (.faulted (.undrawable flaw))

/-! ### Probing -/

/-- A truth value in words, any other value as its text. -/
def yesNo : Value → Value
  | .bool true => .text "yes"
  | .bool false => .text "no"
  | value => .text value.toText

/-- The row of a storage engine in the grid of the probe. -/
def engineRow (engine : Text) (support : Option ColumnSupport) : List Value :=
  let shown : Value := .text (if engine.isEmpty then "(default)" else engine)
  match support with
  | none => [shown, .text "no", .text [], .text [], .text [], .text []]
  | some support => [shown, .text "yes"] ++
      [support.persistentSupported, support.notNullSupported, support.insertIgnoreSupported,
        support.virtualIndexSupported].map fun flag => yesNo (.bool flag)

/-- Probes storage engines one after the other. -/
def probeEngines (toolkit : Toolkit) : List Text → Run (List (List Value))
  | [] => return []
  | engine :: engines => do
    let support ← Run.perform (toolkit.inspector.columnSupport engine)
    return engineRow engine support :: (← probeEngines toolkit engines)

/-- Shows what the server supports of generated columns, for each storage engine that is named or
for the default one. -/
def runProbe (settings : Settings) (engines : List Text) : Run Unit := do
  let toolkit ← openToolkit settings
  let rows ← probeEngines toolkit (if engines.isEmpty then [[]] else engines)
  showGrid ["engine", "generated", "persistent", "not null", "insert ignore", "virtual index"] rows

/-! ### Routines -/

/-- The rows of the grid of routine support. -/
def supportRows (support : RoutineSupport) : List (List Value) := [
  [.text "create or replace supported", yesNo (.bool support.createOrReplaceSupported)],
  [.text "if not exists supported", yesNo (.bool support.ifNotExistsSupported)],
  [.text "aggregate supported", yesNo (.bool support.aggregateSupported)],
  [.text "binary logging enabled", yesNo support.binaryLoggingEnabled],
  [.text "function creators trusted", yesNo (.bool support.functionCreatorsTrusted)]]

/-- The row of a routine in the grid of routines. Who defined it is left empty where the server does
not say. -/
def routineRow (routine : Routine) : List Value :=
  [.text routine.name, .text routine.kind.keyword, routine.status.get "Definer"]

/-- Shows what the server supports of stored routines and lists the routines of the database, with
their statements where that is asked for. -/
def runRoutines (settings : Settings) (showSql : Bool) : Run Unit := do
  let toolkit ← openToolkit settings
  let support ← Run.perform toolkit.inspector.routineSupport
  showGrid ["feature", "supported"] (supportRows support)
  let routines ← Run.perform toolkit.inspector.storedRoutines
  Run.print []
  showGrid ["routine", "type", "definer"] (routines.map routineRow)
  if showSql then
    routines.forM fun routine => do
      Run.print []
      Run.print (routine.createSql.getD [])

/-! ### Tables -/

/-- The row of a table in the grid of tables. -/
def tableRow (table : Table) (index : Nat) : List Value :=
  [.int (index + 1), .text table.name, .text table.type]

/-- Lists the tables of the database in dump order. -/
def runTables (settings : Settings) : Run Unit := do
  let toolkit ← openToolkit settings
  let tables ← Run.perform toolkit.listTables
  showGrid ["#", "table", "type"]
    (tables.zipIdx.map fun (table, index) => tableRow table index)

/-! ### SQL mode -/

/-- Relaxes the SQL mode and shows it before and after. -/
def runSqlMode (settings : Settings) (add remove : List Text) : Run Unit := do
  let toolkit ← openToolkit settings
  let before ← Run.perform (toolkit.connection.readVariable ModeManager.modeVariable)
  match ← Run.perform (toolkit.modes.configure add remove .absent) with
  | none => throw (.complained "Unable to read the current sql_mode")
  | some false =>
    let standing ← Run.perform toolkit.connection.standing
    throw (.complained ("Unable to set the sql_mode: " ++ standing.lastError))
  | some true =>
    let after ← Run.perform (toolkit.connection.readVariable ModeManager.modeVariable)
    showGrid [[], "sql_mode"] [[.text "before", before], [.text "after", after]]

/-! ### Dumps -/

/-- The row of a column in the grid of generated columns. -/
def columnRow (table : Text) (column : Column) : List Value :=
  [.text table, .text column.name, .text (if column.isVirtual then "VIRTUAL" else "STORED"),
    match column.token? .expression with
      | some token => .int token.offset
      | none => .text []]

/-- Shows the generated columns of a dump, and the statements that store them where that is asked
for. -/
def runParse (dump : Text) (alter onMariaDb : Bool) : Run Unit := do
  let columns := Dump.columns dump
  if columns.isEmpty then Run.print "No generated columns found."
  else
    let rows := columns.map fun (table, column) => columnRow table column
    showGrid ["table", "column", "storage", "offset"] rows
    if alter then (Dump.alterStatements onMariaDb dump).forM Run.print

/-- What is wrong with a file that cannot be read. -/
def fileFault (file reason : Text) : UsageFault :=
  .invalidValue "'SQL_FILE'" ("'" ++ file ++ "': " ++ reason)

/-- The content of a dump. A hyphen stands for the input of the console. Bytes that are no UTF-8 are
replaced, and line endings unified. -/
def readDump (file : Text) : Run Text := do
  let console ← get
  let decode := fun (bytes : List UInt8) => Text.unifyNewlines (Text.ofUtf8Lenient bytes)
  if file == "-".toList then
    set { console with input := [] }
    return decode console.input
  else match console.fileContent file with
    | .ok bytes => return decode bytes
    | .error reason => refuse Command.parse.spec (fileFault file reason)

/-! ### Program -/

/-- Refuses arguments that a command has no use for. -/
def refuseExtra (command : Command) : List Text → Run Unit
  | [] => return
  | extra => refuse command.spec (.extraArguments extra)

/-- Runs a command with the settings of the options before it. -/
def runCommand (settings : Settings) (debug : Bool) (command : Command) (arguments : List Text) :
    Run Unit := do
  let read ← readArguments command.spec arguments
  match command, read.rest with
  | .parse, [] => refuse command.spec (.missingArgument "SQL_FILE")
  | .parse, file :: extra =>
    let dump ← readDump file
    refuseExtra command extra
    Run.tellingFaults debug (runParse dump (read.has "alter") (read.has "mariadb"))
  | _, extra =>
    refuseExtra command extra
    Run.tellingFaults debug <| match command with
      | .probe => runProbe settings (SqlMode.splitItems (read.values "engine"))
      | .routines => runRoutines settings (read.has "show-sql")
      | .tables => runTables settings
      | .sqlMode => runSqlMode settings (SqlMode.splitItems (read.values "add"))
          (SqlMode.splitItems (read.values "remove"))
      | .parse => return

/-- Runs the program. What stands in the place of a command and looks like an option is read as one
before it is refused. -/
def run (arguments : List Text) : Run Unit := do
  let read ← readArguments group arguments
  let settings ← processGroup read
  match read.rest with
  | [] => refuse group .missingCommand
  | name :: rest =>
    match Command.ofName? name with
    | some command => runCommand settings (read.has "debug") command rest
    | none =>
      if CommandSpec.givesOptions name then
        let again ← readArguments group (name :: rest)
        let _ ← processGroup again
      refuse group (.unknownCommand name (Text.similarNames (Command.all.map Command.name) name))

end DumpRestore.CommandLine
