/-
This file keeps the log of a session. Every record is kept; the records of the toolkit are also
written, one line each, to every screen and to every log file that is open. Log files are written
by position: each writer goes on where it stopped, whatever others write to the same file.
-/

import DumpRestore.Text.Utf8

namespace DumpRestore

/-- The level of a record. -/
inductive Level where
  | debug
  | info
  | warning
  | error
deriving Repr, DecidableEq

namespace Level

/-- The name of a level. -/
def name : Level → Text
  | .debug => "DEBUG"
  | .info => "INFO"
  | .warning => "WARNING"
  | .error => "ERROR"

end Level

/-- A record of a log. -/
structure Record where
  level : Level
  message : Text
deriving Repr, DecidableEq

/-- Who reports a record: the toolkit, whose records are also written out, or a component of its
own. -/
inductive Reporter where
  | toolkit
  | component
deriving Repr, DecidableEq

/-- A writer of a log file: the path of the file, and the position at which the writer goes on. -/
structure LogWriter where
  path : Text
  position : Nat
deriving Repr, DecidableEq

/-- The log of a session: the records in order, how many screens are open and what stands on them,
the contents of log files by path, their writers, and the time stamp of written lines. -/
structure Journal where
  records : List Record := []
  screens : Nat := 0
  screen : Text := []
  files : List (Text × List UInt8) := []
  writers : List LogWriter := []
  stamp : Text := []

namespace Journal

/-- The line that a record is written as: the time stamp, the level in eight columns, and the
message. -/
def line (stamp : Text) (record : Record) : Text :=
  stamp ++ Text.padRight 8 record.level.name ++ " " ++ record.message ++ "\n"

/-! ### Log files -/

/-- The content of a log file. -/
def content (path : Text) (journal : Journal) : List UInt8 :=
  (journal.files.lookup path).getD []

/-- Sets the content of a log file. -/
def setContent (path : Text) (bytes : List UInt8) (journal : Journal) : Journal :=
  { journal with files := (path, bytes) :: journal.files.filter fun file => file.1 != path }

/-- Bytes with others written over them from a position on; a hole is filled with zeros. -/
def overwrite (bytes : List UInt8) (position : Nat) (written : List UInt8) : List UInt8 :=
  let before := (bytes ++ List.replicate (position - bytes.length) 0).take position
  before ++ written ++ bytes.drop (position + written.length)

/-- Opens a log file anew for one more writer. -/
def openFile (path : Text) (journal : Journal) : Journal :=
  { journal.setContent path [] with writers := journal.writers ++ [{ path, position := 0 }] }

/-- Lets writers write a line, the first of them first. -/
def write (bytes : List UInt8) : List LogWriter → Journal → List LogWriter × Journal
  | [], journal => ([], journal)
  | writer :: writers, journal =>
    let written := overwrite (journal.content writer.path) writer.position bytes
    let (writers, journal) := write bytes writers (journal.setContent writer.path written)
    ({ writer with position := writer.position + bytes.length } :: writers, journal)

/-! ### Screens and records -/

/-- Opens one more screen. -/
def openScreen (journal : Journal) : Journal :=
  { journal with screens := journal.screens + 1 }

/-- Writes a record to the screens and the log files. -/
def publish (record : Record) (journal : Journal) : Journal :=
  let text := line journal.stamp record
  let shown := (List.replicate journal.screens text).flatten
  let (writers, journal) := write (Text.toUtf8 text) journal.writers journal
  { journal with screen := journal.screen ++ shown, writers }

/-- Adds a record to the log. -/
def add (reporter : Reporter) (record : Record) (journal : Journal) : Journal :=
  let kept := { journal with records := journal.records ++ [record] }
  match reporter with
  | .toolkit => kept.publish record
  | .component => kept

end Journal

end DumpRestore
