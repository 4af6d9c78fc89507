/-
This file probes stored routines. It creates a throwaway function, tries the statements that the
library has to know, asks for the settings of binary logging, and drops the function before and
after. A server on which the function cannot be created at all is a fault, which is cached like a
result.
-/

import DumpRestore.Like
import DumpRestore.Probe.Inspector
import DumpRestore.Text.Case

namespace DumpRestore.Inspector

/-! ### Statements -/

/-- The name of the throwaway function. -/
def routineName : Text := "mrk_test_stored_routine"

/-- The name under which the result is cached. -/
def routinesKey : Text := "stored_routine"

/-- The signature of the throwaway function. -/
def routineSignature : Text :=
  routineName ++ "() RETURNS tinyint(1) DETERMINISTIC READS SQL DATA"

/-- Drops the throwaway function. -/
def dropRoutine : Text :=
  "DROP FUNCTION IF EXISTS " ++ routineName

/-- Creates the throwaway function. -/
def createRoutine : Text :=
  "CREATE FUNCTION " ++ routineSignature ++ " RETURN true"

/-- Creates the throwaway function in the place of the one there is. -/
def replaceRoutine : Text :=
  "CREATE OR REPLACE FUNCTION " ++ routineSignature ++ " RETURN true"

/-- Creates the throwaway function unless there is one. -/
def createMissingRoutine : Text :=
  "CREATE FUNCTION IF NOT EXISTS " ++ routineSignature ++ " RETURN true"

/-- Creates the throwaway function as an aggregate. -/
def replaceAggregate : Text :=
  "CREATE OR REPLACE AGGREGATE FUNCTION " ++ routineSignature ++
    " BEGIN RETURN true; FETCH GROUP NEXT ROW; END"

/-! ### Settings -/

/-- A setting as a truth value where it is on or off in one of the spellings servers use, and as it
is otherwise. -/
def normalizeSwitch (setting : Value) : Action Value := do
  match ← Action.decode setting with
  | .int 0 => return .bool false
  | .int 1 => return .bool true
  | .text text =>
    if Text.upper text == "ON".toList || text == "1".toList then return .bool true
    else if Text.upper text == "OFF".toList || text == "0".toList then return .bool false
    else return .text text
  | value => return value

/-- The value in the first row of a listing of settings, null where there is none or an empty
text. -/
def listedSetting : Option (List Row) → Value
  | some (row :: _) =>
    match row.get "Value" with
    | .text [] => .null
    | value => value
  | _ => .null

/-- Whether binary logging is on. A server that does not give the variable by itself is asked for
the listing of variables. -/
def binaryLogging (inspector : Inspector) : Action Value := do
  match ← inspector.connection.value "SELECT @@GLOBAL.log_bin" with
  | .null =>
    let listing ← inspector.connection.rows "SHOW GLOBAL VARIABLES LIKE %s"
      (some [.text (Like.escape "log_bin")])
    normalizeSwitch (listedSetting listing)
  | status => normalizeSwitch status

/-- Whether the creators of functions are trusted. -/
def creatorsTrusted (inspector : Inspector) : Action Bool := do
  match ← normalizeSwitch
      (← inspector.connection.value "SELECT @@GLOBAL.log_bin_trust_function_creators") with
  | .bool true => return true
  | _ => return false

/-! ### Probe -/

/-- The failure of a server on which the throwaway function cannot be created. -/
def creationFailure (lastError : Text) : QueryFailure :=
  { kind := "routine_creation_error"
    message := "An error occurred while attempting to check the support of stored routines " ++
      "creation (" ++ lastError ++ " - " ++ createRoutine ++ ")"
    lastError := some lastError
    statement := some createRoutine }

/-- What is tried once the throwaway function exists. -/
def tryRoutines (inspector : Inspector) : Action RoutineSupport := do
  let createOrReplaceSupported ← inspector.accepts replaceRoutine
  let ifNotExistsSupported ← inspector.accepts createMissingRoutine
  let aggregateSupported ← inspector.accepts replaceAggregate
  let binaryLoggingEnabled ← inspector.binaryLogging
  let functionCreatorsTrusted ← inspector.creatorsTrusted
  return {
    createOrReplaceSupported, ifNotExistsSupported, aggregateSupported, binaryLoggingEnabled
    functionCreatorsTrusted }

/-- The probe with the throwaway function. -/
def probeRoutines (inspector : Inspector) : Action ProbeResult := do
  let _ ← inspector.connection.query dropRoutine
  if ← inspector.accepts createRoutine then
    return .routines (← inspector.tryRoutines)
  else
    return .failed (creationFailure (← inspector.connection.standing).lastError)

/-- What the server supports of stored routines. A failure that is cached is raised again without a
report. -/
def routineSupport (inspector : Inspector) : Action RoutineSupport := do
  match ← inspector.cached? routinesKey with
  | some (.failed failure) => throw (.queryFailed failure)
  | some (.routines support) => return support
  | _ =>
    let result ← inspector.suppressed (some dropRoutine) inspector.probeRoutines
    match ← inspector.store routinesKey result with
    | .routines support => return support
    | .failed failure =>
      Action.report inspector.reporter .error failure.message
      throw (.queryFailed failure)
    | .columns _ => throw (.queryFailed (creationFailure []))

end DumpRestore.Inspector
