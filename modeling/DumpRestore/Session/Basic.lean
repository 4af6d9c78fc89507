/-
This file defines a session with database servers and the actions in it. A session remembers what
each server was asked, what every connection last did, the results of probes, and the log. An
action changes the session and gives a value or a fault; the changes made before a fault stay.
-/

import DumpRestore.Cache
import DumpRestore.Column.Stored
import DumpRestore.Routine
import DumpRestore.Session.Journal

namespace DumpRestore

/-! ### What a session remembers -/

/-- What names a managed connection: the server it is shared under, or a number of its own. -/
inductive ConnectionKey where
  | shared (server : Text)
  | own (number : Nat)
deriving Repr, DecidableEq

/-- The state of a managed connection: whether its errors are suppressed, and the error and the text
of its last statement. -/
structure Standing where
  suppressed : Bool := false
  lastError : Text := []
  lastQuery : Text := []
deriving Repr, DecidableEq

/-- The result of a probe, as a cache keeps it. -/
inductive ProbeResult where
  | columns (support : Option ColumnSupport)
  | routines (support : RoutineSupport)
  | failed (failure : QueryFailure)

/-- What is known of the version of a server: the version it reported, and whether it is MariaDB. -/
structure VersionKnowledge where
  reported : Option Text := none
  isMariaDb : Bool := false
deriving Repr, DecidableEq

/-- Where a new connection leads: a socket file, or a host and a port. -/
inductive Address where
  | socket (path : Text)
  | network (host : Text) (port : Int)
deriving Repr, DecidableEq

/-- What a new connection is opened with. -/
structure Login where
  user : Text
  password : Option Text
  database : Text
  charset : Text
  sslDisabled : Bool
  address : Address
deriving Repr, DecidableEq

/-- A session. Requests of a server are listed with the latest first, statements, attempts and logins
with the latest last. An attempt is a statement that a managed connection was given, whether or not
a cursor for it could be opened. Keys of caches, of connections and of version knowledge are handed
out in turn. -/
structure Session where
  servers : Text → Server
  received : Text → List Request := fun _ => []
  statements : List (Text × Statement) := []
  attempts : List (ConnectionKey × Statement) := []
  logins : List Login := []
  standings : ConnectionKey → Standing := fun _ => {}
  caches : Nat → Cache ProbeResult := fun _ => {}
  versions : Nat → VersionKnowledge := fun _ => {}
  journal : Journal := {}
  clock : Text
  random : Int
  nextKey : Nat := 0

/-- Sets one value of a function. -/
def update {Key Item : Type} [DecidableEq Key] (items : Key → Item) (key : Key) (item : Item) :
    Key → Item :=
  fun other => if other = key then item else items other

/-! ### Actions -/

/-- An action in a session. -/
abbrev Action (Result : Type) := ExceptT Fault (StateM Session) Result

namespace Action

variable {Result : Type}

/-- Adds a record to the log. -/
def report (reporter : Reporter) (level : Level) (message : Text) : Action Unit :=
  modify fun session => { session with journal := session.journal.add reporter { level, message } }

/-- A key that has not been handed out. -/
def freshKey : Action Nat := do
  let session ← get
  set { session with nextKey := session.nextKey + 1 }
  return session.nextKey

/-- What a session remembers of a request to a server. -/
def remember (server : Text) (request : Request) (session : Session) : Session :=
  { session with
    received := update session.received server (request :: session.received server)
    statements := match request with
      | .openCursor => session.statements
      | .execute statement => session.statements ++ [(server, statement)] }

/-- Sends a request to a server. A failed request is a fault, and is remembered like any other. -/
def send (server : Text) (request : Request) : Action ResultSet := do
  let session ← get
  set (remember server request session)
  match (session.servers server).respond (session.received server) request with
  | .ok result => return result
  | .error failure => throw (Fault.ofFailure failure)

/-- Opens a cursor and executes a statement on it. -/
def execute (server : Text) (statement : Statement) : Action ResultSet := do
  let _ ← send server .openCursor
  send server (.execute statement)

/-- The action with an error that a server reports as a result. Every other fault stays a fault. -/
def catchRefusal (action : Action Result) : Action (Except ServerError Result) := fun session =>
  match action session with
  | (.ok result, session) => (.ok (.ok result), session)
  | (.error (.refused error), session) => (.ok (.error error), session)
  | (.error fault, session) => (.error fault, session)

/-- The action followed by another one, whether it ends in a fault or not. A fault of the second
one takes the place of whatever the first one gave. -/
def ensuring (action : Action Result) (cleanup : Action Unit) : Action Result := fun session =>
  let (outcome, session) := action session
  match cleanup session with
  | (.ok (), session) => (outcome, session)
  | (.error fault, session) => (.error fault, session)

/-- The text of bytes; every other value stays as it is. -/
def decode : Value → Action Value
  | .bytes content | .buffer content =>
    match Text.ofUtf8 content with
    | .ok text => return .text text
    | .error flaw => throw (.undecodable flaw)
  | value => return value

end Action

end DumpRestore
