/-
This file is the program. It reads the files and the input that its arguments may name, runs the
command, and prints what the command printed. No database driver is part of the program, so a
command that needs a server is told that there is none.
-/

import DumpRestore.CommandLine.Commands

namespace DumpRestore.Program

/-- The server of a program without a database driver: nobody can connect to it. -/
def absentServer : Server :=
  { connectFailure := some (.refused {
      message := some "no database driver"
      description := "no database driver is available".toList })
    respond := fun _ _ => .ok {} }

/-- The contents of the files that arguments name. -/
def readNamedFiles (arguments : List String) : IO (List (Text × List UInt8)) :=
  arguments.filterMapM fun (argument : String) => do
    try
      let content ← IO.FS.readBinFile argument
      return some (argument.toList, content.toList)
    catch _ => return none

/-- What the user typed, where an argument asks for it. -/
def readInput (arguments : List String) : IO (List UInt8) := do
  if arguments.any fun argument => argument.startsWith "-" then
    let input ← IO.getStdin
    return (← input.readBinToEnd).toList
  else return []

end DumpRestore.Program

open DumpRestore in
/-- Runs the program with its arguments and gives its exit code. -/
def main (arguments : List String) : IO UInt32 := do
  let files ← Program.readNamedFiles arguments
  let input ← Program.readInput arguments
  let console : Console := {
    input
    fileContent := fun path => match files.lookup path with
      | some content => .ok content
      | none => .error "No such file or directory"
    session := { servers := fun _ => Program.absentServer, clock := "0", random := 0 } }
  let (outcome, console) := Outcome.ofRun (CommandLine.run (arguments.map String.toList)) console
  IO.print (String.ofList console.session.journal.screen)
  IO.print (String.ofList console.output)
  IO.eprint (String.ofList console.errors)
  match outcome.fault with
  | some fault => IO.eprintln (String.ofList fault.message)
  | none => pure ()
  return UInt32.ofNat outcome.exitCode
