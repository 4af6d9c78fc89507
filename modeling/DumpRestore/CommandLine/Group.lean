/-
This file reads the options that stand before a command: how to reach the server, whom to connect
as, and where the log goes. Options are processed in the order in which they are given, so the
password is asked for unless it was given before the option that asks for it.
-/

import DumpRestore.CommandLine.Console
import DumpRestore.CommandLine.Options
import DumpRestore.Text.Case
import DumpRestore.Toolkit.Platform
import DumpRestore.Toolkit.Settings

namespace DumpRestore.CommandLine

/-- The name under which the program is called. -/
def programCall : Text := "mysqlrestorekit"

/-- The program itself, with the options that stand before a command. -/
def group : CommandSpec :=
  { path := programCall
    usage := "[OPTIONS] COMMAND [ARGS]..."
    interspersed := false
    options := [
      { key := "database", names := ["-d", "--mysql-database"] },
      { key := "user", names := ["-u", "--mysql-user"] },
      { key := "prompt", names := ["-p", "--prompt-mysql-password"], takesValue := false },
      { key := "password", names := ["--mysql-password"] },
      { key := "host", names := ["-h", "--mysql-host"] },
      { key := "port", names := ["-P", "--mysql-port"] },
      { key := "socket", names := ["--mysql-socket"] },
      { key := "skip-ssl", names := ["-S", "--skip-ssl"], takesValue := false },
      { key := "charset", names := ["--mysql-charset"] },
      { key := "type", names := ["-t", "--database-type"] },
      { key := "prefix", names := ["--table-prefix"] },
      { key := "log", names := ["-l", "--log-file"] },
      { key := "quiet", names := ["-q", "--quiet"], takesValue := false },
      { key := "debug", names := ["--debug"], takesValue := false },
      { key := "version", names := ["--version"], takesValue := false },
      { key := "help", names := ["--help"], takesValue := false }] }

/-- Ends a run with a fault in the arguments of a command. -/
def refuse {Result : Type} (command : CommandSpec) (fault : UsageFault) : Run Result :=
  throw (.usage (command.complaint fault))

/-- Reads the arguments of a command. Asking for help ends the run. -/
def readArguments (command : CommandSpec) (arguments : List Text) : Run Arguments := do
  match command.read arguments with
  | .error fault => refuse command fault
  | .ok read =>
    if read.has "help" then
      Run.print ("Usage: " ++ command.path ++ " " ++ command.usage)
      throw (.left 0)
    return read

/-! ### Password -/

/-- Where a password comes from that is to be asked for: nowhere, because nobody asks, from an
option that was given before, or from a prompt. -/
inductive PasswordSource where
  | nowhere
  | given (password : Text)
  | prompted
deriving Repr, DecidableEq

/-- Where the password comes from. An empty one that was given does not count. -/
def passwordSource (asked : Bool) (given : Option Text) : PasswordSource :=
  if asked then
    match given with
    | some (character :: rest) => .given (character :: rest)
    | _ => .prompted
  else .nowhere

/-- What the prompt for the password says. -/
def passwordPrompt : Text := "MySQL password"

/-! ### Values -/

/-- The values of the options that are not taken as they are. -/
structure GroupValues where
  port : Int := 3306
  givenPassword : Option Text := none
  askedPassword : Option Text := none

/-- What is wrong with a port that is no number. -/
def portFault (value : Text) : UsageFault :=
  .invalidValue "'-P' / '--mysql-port'" (Text.quoted value ++ " is not a valid integer.")

/-- Processes the options that were given, the first of them first. -/
def processOptions (arguments : Arguments) (values : GroupValues) : List Text → Run GroupValues
  | [] => return values
  | key :: keys => do
    let value := (arguments.value? key).getD []
    if key == "port".toList then
      match Text.readInt? value with
      | some port => processOptions arguments { values with port } keys
      | none => refuse group (portFault value)
    else if key == "password".toList then
      processOptions arguments { values with givenPassword := some value } keys
    else if key == "prompt".toList then
      match passwordSource true values.givenPassword with
      | .prompted =>
        let password ← Run.promptHidden passwordPrompt
        processOptions arguments { values with askedPassword := some password } keys
      | .given password =>
        processOptions arguments { values with askedPassword := some password } keys
      | .nowhere => processOptions arguments values keys
    else processOptions arguments values keys

/-- The value of an option as a setting, null where it is not given. -/
def setting (arguments : Arguments) (key : Text) : Value :=
  match arguments.value? key with
  | some value => .text value
  | none => .null

/-- The character set in lower case; the default one where it is empty. -/
def charsetSetting (arguments : Arguments) : Value :=
  match arguments.value? "charset" with
  | some (character :: rest) => .text (Text.lower (character :: rest))
  | _ => .text "utf8mb4"

/-- The password that was given, or the one that was asked for. -/
def passwordSetting (values : GroupValues) : Value :=
  match values.givenPassword, values.askedPassword with
  | some (character :: rest), _ => .text (character :: rest)
  | _, some password => .text password
  | _, none => .null

/-- The settings that the options stand for. -/
def settings (arguments : Arguments) (values : GroupValues) : Settings :=
  { user := setting arguments "user"
    password := passwordSetting values
    host := (setting arguments "host").orElse (.text "localhost")
    port := .int values.port
    socket := setting arguments "socket"
    sslDisabled := .bool (arguments.has "skip-ssl")
    database := setting arguments "database"
    charset := charsetSetting arguments
    databaseType := setting arguments "type"
    tablePrefix := setting arguments "prefix"
    logFile := setting arguments "log"
    quiet := .bool (arguments.has "quiet") }

/-- Processes the options before a command. Asking for the version ends the run. -/
def processGroup (arguments : Arguments) : Run Settings := do
  if arguments.has "version" then
    Run.print (Platform.programName ++ " " ++ Platform.programVersion)
    throw (.left 0)
  let values ← processOptions arguments {} arguments.keys
  return settings arguments values

end DumpRestore.CommandLine
