/-
This file reads and writes session variables on a handle itself, with names and values escaped into
the statement. The handle may be none that the library knows; then nothing is sent.
-/

import DumpRestore.Session.Basic
import DumpRestore.Like

namespace DumpRestore

/-- A direct connection: the handle it uses, none where it was given something that is none, and
who reports its errors. -/
structure DirectConnection where
  handle : Option Handle
  reporter : Reporter
deriving Repr, DecidableEq

namespace DirectConnection

/-- The handle where the library knows it as a connection. -/
def supportedHandle? (connection : DirectConnection) : Option Handle :=
  connection.handle.filter Handle.isSupported

/-- The first value of the first row that a statement gives, null where there is none. -/
def firstValue (server : Text) (sql : Text) : Action Value := do
  let result ← Action.execute server { sql }
  match result.rows with
  | some (row :: _) => return row.first
  | _ => return .null

/-- The value of a session variable: false where the handle is not supported or the server refuses
the query, and null where the server gives no value. -/
def readVariable (connection : DirectConnection) (name : Text) : Action Value := do
  match connection.supportedHandle? with
  | none => return .bool false
  | some handle =>
    let sql := "SELECT @@SESSION." ++ SqlLiteral.escape name
    match ← Action.catchRefusal (firstValue handle.server sql) with
    | .ok value => Action.decode value
    | .error error =>
      Action.report connection.reporter .debug
        ("Reading session variable " ++ name ++ " failed: " ++ error.description)
      return .bool false

/-- The statement that sets a session variable to the text of a value. -/
def assignment (name : Text) (value : Value) : Text :=
  "SET SESSION " ++ SqlLiteral.escape name ++ "='" ++ SqlLiteral.escape value.toText ++ "'"

/-- Sets a session variable; the result says whether the handle is supported and the server accepted
the statement. -/
def writeVariable (connection : DirectConnection) (name : Text) (value : Value) : Action Bool := do
  match connection.supportedHandle? with
  | none => return false
  | some handle =>
    let _ ← Action.send handle.server .openCursor
    let statement := { sql := assignment name value }
    match ← Action.catchRefusal (Action.send handle.server (.execute statement)) with
    | .ok _ => return true
    | .error error =>
      Action.report connection.reporter .debug
        ("Writing session variable " ++ name ++ " failed: " ++ error.description)
      return false

end DirectConnection

end DumpRestore
