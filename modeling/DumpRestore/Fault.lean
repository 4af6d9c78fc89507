/-
This file lists what can go wrong in a session, each cause with its words. A fault ends the
operation it occurs in; an error that a server reports is a fault only where nobody handles it.
-/

import DumpRestore.Grid.Cell
import DumpRestore.Server.Basic
import DumpRestore.Version

namespace DumpRestore

/-- A query that failed for a reason that has nothing to do with what the server supports: the sort
of the failure, its message, and the last error and statement where they are known. -/
structure QueryFailure where
  kind : Text
  message : Text
  lastError : Option Text := none
  statement : Option Text := none
deriving Repr, DecidableEq

namespace QueryFailure

/-- The failure as it appears in messages. -/
def literal (failure : QueryFailure) : Text :=
  "InfrastructureError(kind=" ++ Text.quoted failure.kind ++ ", message=" ++
    Text.quoted failure.message ++ ")"

end QueryFailure

/-- Why a setting is no port: its text is no integer, or one with too many digits, it is undefined
or infinite, or it is a list of values. The literal of a text is cut where it is told. -/
inductive PortFlaw where
  | noInteger (literal : Text)
  | tooLong (digits : Nat)
  | undefined
  | infinite
  | list
deriving Repr, DecidableEq

namespace PortFlaw

/-- The most characters of a literal that are told. -/
def literalLimit : Nat := 200

/-- The flaw in words. -/
def message : PortFlaw → Text
  | .noInteger literal => "invalid literal for int() with base 10: " ++ literal.take literalLimit
  | .tooLong digits => Text.digitLimitMessage digits
  | .undefined => "cannot convert float NaN to integer"
  | .infinite => "cannot convert float infinity to integer"
  | .list => "int() argument must be a string, a bytes-like object or a real number, not 'tuple'"

end PortFlaw

/-- What ends an operation of a session. -/
inductive Fault where
  | refused (error : ServerError)
  | crashed (crash : Crash)
  | undecodable (flaw : Text.Utf8Flaw)
  | queryFailed (failure : QueryFailure)
  | notConnected
  | missingUser
  | missingDatabase
  | unsupportedConnection
  | invalidPort (flaw : PortFlaw)
  | invalidEngine (name : Text)
  | invalidRoutineKind (name : Text)
  | invalidVersion (flaw : Version.Flaw)
  | undrawable (flaw : CellFlaw)
deriving Repr, DecidableEq

namespace Fault

/-- The fault that a failed request is where nobody handles it. -/
def ofFailure : Failure → Fault
  | .refused error => .refused error
  | .crashed crash => .crashed crash

/-- The fault in words. -/
def message : Fault → Text
  | .refused error => error.description
  | .crashed crash => crash.message
  | .undecodable flaw => flaw.message
  | .queryFailed failure => failure.message
  | .notConnected => "Unable to connect to MySQL"
  | .missingUser => "Please provide a MySQL user"
  | .missingDatabase => "Please provide a MySQL database"
  | .unsupportedConnection =>
    "Please provide a mysql.connector connection or a DatabaseConnection"
  | .invalidPort flaw => flaw.message
  | .invalidEngine name => "Invalid storage engine name: " ++ Text.quoted name
  | .invalidRoutineKind name => Text.quoted name ++ " is not a valid RoutineKind"
  | .invalidVersion flaw => flaw.message
  | .undrawable flaw => flaw.message

end Fault

end DumpRestore
