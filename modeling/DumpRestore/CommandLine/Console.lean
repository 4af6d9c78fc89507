/-
This file defines the console a command runs on: what it prints, what the user types, the files it
can read, and the session with the server. It also says how a run can end before its command is
done.
-/

import DumpRestore.CommandLine.Typed
import DumpRestore.Session.Basic
import DumpRestore.Text.Terminal

namespace DumpRestore

/-- A console: the two outputs so far, the input that nobody has read, what a prompt has taken from
it, the content of a file or why it cannot be read, and the session. -/
structure Console where
  output : Text := []
  errors : Text := []
  input : List UInt8 := []
  typed : Typed := {}
  fileContent : Text → Except Text (List UInt8)
  session : Session

namespace Console

/-- A text as a console takes it that is no terminal: without control sequences, and with a newline
alone at the end of a line. -/
def plain (text : Text) : Text :=
  Text.joinReturns (Text.dropControls text)

end Console

/-- How a run ends early: wrong arguments, a decision to leave, a complaint of a command, a prompt
that the user broke off, or a fault that nobody handled. -/
inductive Stop where
  | usage (complaint : Text)
  | left (exitCode : Nat)
  | complained (message : Text)
  | aborted
  | faulted (fault : Fault)
deriving Repr, DecidableEq

/-- A part of a run on a console. -/
abbrev Run (Result : Type) := ExceptT Stop (StateM Console) Result

namespace Run

variable {Result : Type}

/-- Prints a line. -/
def print (line : Text) : Run Unit :=
  modify fun console =>
    { console with output := console.output ++ Console.plain (line ++ "\n") }

/-- Runs an action in the session of the console. A fault of the action ends the run. -/
def perform (action : Action Result) : Run Result := do
  let console ← get
  let (outcome, session) := action console.session
  set { console with session }
  match outcome with
  | .ok result => return result
  | .error fault => throw (.faulted fault)

/-- A run whose faults are told in a line, or passed on for debugging. An interruption by the user
is told in either case. -/
def tellingFaults (debug : Bool) (run : Run Unit) : Run Unit :=
  tryCatch run fun
    | .faulted (.crashed { kind := .interruption, .. }) => do
      print "\nProcess interrupted. Exiting..."
      throw (.left 1)
    | .faulted fault =>
      if debug then throw (.faulted fault)
      else do
        print fault.message
        throw (.left 1)
    | stop => throw stop

/-! ### Prompts -/

/-- Asks the user for a hidden text that is not empty; the prompt is repeated for each line. Where
the input ends, the user breaks off. -/
def promptHidden (prompt : Text) : Run Text := do
  let console ← get
  let answer := console.typed.answer 1 (Typed.chunks console.input)
  (List.replicate answer.asked ()).forM fun () => print (prompt ++ ": ")
  modify fun console =>
    { console with input := answer.unread.flatten, typed := answer.typed }
  match answer.outcome with
  | .line line => return line
  | .flawed flaw => throw (.faulted (.undecodable flaw))
  | .ended => do
    print []
    throw .aborted

end Run

/-- What a run leaves behind: its exit code, and the fault that ended it where nobody handled it. -/
structure Outcome where
  exitCode : Nat
  fault : Option Fault := none
deriving Repr, DecidableEq

namespace Outcome

/-- What a stop leaves behind, and what it adds to the error output. -/
def ofStop : Stop → Outcome × Text
  | .usage complaint => ({ exitCode := 2 }, complaint)
  | .left exitCode => ({ exitCode }, [])
  | .complained message => ({ exitCode := 1 }, "Error: " ++ message ++ "\n")
  | .aborted => ({ exitCode := 1 }, "Aborted!\n")
  | .faulted fault => ({ exitCode := 1, fault := some fault }, [])

/-- Runs on a console to the end. -/
def ofRun (run : Run Unit) (console : Console) : Outcome × Console :=
  match run console with
  | (.ok (), console) => ({ exitCode := 0 }, console)
  | (.error stop, console) =>
    let (outcome, complaint) := ofStop stop
    (outcome, { console with errors := console.errors ++ Console.plain complaint })

end Outcome

end DumpRestore
