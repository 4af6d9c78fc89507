/-
This file defines a database server as its clients see it: the requests they send, what comes back,
and how a request can fail. A server answers a request by all it was asked before, so nothing is
assumed about how servers behave.
-/

import DumpRestore.Value

namespace DumpRestore

/-! ### Requests -/

/-- A statement for a server, with the values for its placeholders where it has any. -/
structure Statement where
  sql : Text
  parameters : Option (List Value) := none

/-- What a client asks of a server: a cursor, or the execution of a statement. -/
inductive Request where
  | openCursor
  | execute (statement : Statement)

/-! ### Answers -/

/-- What a statement gives: rows where it has a result set, and the number of rows it touched. -/
structure ResultSet where
  rows : Option (List Row) := none
  count : Int := 0

/-- An error that a server reports: a short message where it gives one, and a full description. -/
structure ServerError where
  message : Option Text
  description : Text
deriving Repr, DecidableEq

namespace ServerError

/-- The short message, or the description where there is none or an empty one. -/
def summary (error : ServerError) : Text :=
  match error.message with
  | some (character :: rest) => character :: rest
  | _ => error.description

end ServerError

/-- A failure that is no report of the server: a failure of the program, of the system or of the
network, or an interruption by the user. -/
inductive CrashKind where
  | program
  | system
  | network
  | interruption
deriving Repr, DecidableEq

/-- A crash and what it says. -/
structure Crash where
  kind : CrashKind
  message : Text
deriving Repr, DecidableEq

/-- How a request fails. -/
inductive Failure where
  | refused (error : ServerError)
  | crashed (crash : Crash)
deriving Repr, DecidableEq

/-! ### Servers and handles -/

/-- A server: its current database, whether a new connection to it stands, how connecting fails
where it does, and its answer to a request after earlier requests, the latest of which comes
first. -/
structure Server where
  database : Option Text := none
  isConnected : Bool := true
  connectFailure : Option Failure := none
  respond : (earlier : List Request) → Request → Except Failure ResultSet

/-- The sort of a handle: a connection of its own, one from a pool, or another type of object that
the library does not know as a connection. -/
inductive HandleKind where
  | dedicated
  | pooled
  | other (typeName : Text)
deriving Repr, DecidableEq

/-- A handle to a server, named by the server it leads to. -/
structure Handle where
  server : Text
  kind : HandleKind
deriving Repr, DecidableEq

namespace Handle

/-- Whether the library knows the handle as a connection. -/
def isSupported (handle : Handle) : Bool :=
  match handle.kind with
  | .dedicated | .pooled => true
  | .other _ => false

end Handle

end DumpRestore
