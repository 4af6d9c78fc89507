/-
This file relaxes the SQL mode of a session. It reads the mode, merges it with modes to add and to
remove, and writes the result on the connection it was read from. Callers may hand over a managed
connection, a direct one, a handle, or something else, which is refused.
-/

import DumpRestore.Connection.Direct
import DumpRestore.Connection.Managed
import DumpRestore.SqlMode

namespace DumpRestore

/-- A connection on which session variables can be read and written. -/
inductive Channel where
  | managed (connection : Connection)
  | direct (connection : DirectConnection)
deriving Repr, DecidableEq

namespace Channel

/-- The value of a session variable. -/
def readVariable : Channel → Text → Action Value
  | .managed connection => connection.readVariable
  | .direct connection => connection.readVariable

/-- Sets a session variable. -/
def writeVariable : Channel → Text → Value → Action Bool
  | .managed connection => connection.writeVariable
  | .direct connection => connection.writeVariable

end Channel

/-- What callers hand over in the place of a connection: nothing, a channel, a handle, or a value of
another type. -/
inductive Subject where
  | absent
  | channel (channel : Channel)
  | handle (handle : Handle)
  | other (typeName : Text)
deriving Repr, DecidableEq

namespace Subject

/-- The direct connection to a subject that is a handle; one that supports nothing otherwise. -/
def direct (reporter : Reporter) : Subject → DirectConnection
  | .handle known => { handle := some known, reporter }
  | _ => { handle := none, reporter }

end Subject

/-- The part of the library that changes SQL modes: the channel it uses unless it is given another
one, and who reports what it does. -/
structure ModeManager where
  default : Option Channel
  reporter : Reporter

namespace ModeManager

/-- The channel for a subject. A handle is used directly where it is supported; a subject that is no
connection is reported. -/
def resolve (manager : ModeManager) : Subject → Action (Option Channel)
  | .absent => return manager.default
  | .channel channel => return some channel
  | .handle handle =>
    if handle.isSupported then
      return some (.direct { handle := some handle, reporter := manager.reporter })
    else match handle.kind with
      | .other typeName => unsupported typeName
      | _ => return none
  | .other typeName => unsupported typeName
where
  /-- Reports a subject that is no connection. -/
  unsupported (typeName : Text) : Action (Option Channel) := do
    Action.report manager.reporter .warning
      ("Unsupported connection handle " ++ typeName ++ "; leaving sql_mode untouched")
    return none

/-- The variable that holds the SQL mode of a session. -/
def modeVariable : Text := "sql_mode"

/-- Merges the current SQL mode with modes to add and to remove and writes the result. The result is
none where the current mode could not be read, in which case nothing is written, and says
otherwise whether the server accepted the new mode. -/
def configure (manager : ModeManager) (add remove : List Text) (subject : Subject) :
    Action (Option Bool) := do
  match ← manager.resolve subject with
  | none => return none
  | some channel =>
    match ← channel.readVariable modeVariable with
    | .text current =>
      let merged := SqlMode.merge current add remove
      Action.report manager.reporter .debug
        ("Changing sql_mode from " ++ Text.quoted current ++ " to " ++ Text.quoted merged)
      return some (← channel.writeVariable modeVariable (.text merged))
    | _ =>
      Action.report manager.reporter .warning
        "Unable to read the current sql_mode; leaving it untouched"
      return none

/-- The value of a session variable on a handle, false for every other subject. -/
def readVariable (manager : ModeManager) (name : Text) (subject : Subject) : Action Value :=
  (subject.direct manager.reporter).readVariable name

/-- Sets a session variable on a handle; every other subject gives false. -/
def writeVariable (manager : ModeManager) (name : Text) (value : Value) (subject : Subject) :
    Action Bool :=
  (subject.direct manager.reporter).writeVariable name value

end ModeManager

end DumpRestore
