/-
This file defines the inspector, which finds out what a server supports by trying it on throwaway
objects. Results are kept in a cache, so that each probe runs once. While a probe runs, the errors
of its connection are suppressed.
-/

import DumpRestore.Connection.Managed
import DumpRestore.Text.Digest

namespace DumpRestore

/-- An inspector: the connection it uses, the key of its cache, the prefix of throwaway tables, and
who reports what it does. -/
structure Inspector where
  connection : Connection
  cache : Nat
  tablePrefix : Text
  reporter : Reporter

namespace Inspector

/-- The cached result of a probe. -/
def cached? (inspector : Inspector) (name : Text) : Action (Option ProbeResult) := do
  return ((← get).caches inspector.cache).get? name

/-- Stores the result of a probe unless there is one, and gives the one that is kept. -/
def store (inspector : Inspector) (name : Text) (result : ProbeResult) : Action ProbeResult := do
  let session ← get
  let (kept, cache) := (session.caches inspector.cache).store name result
  set { session with caches := update session.caches inspector.cache cache }
  return kept

/-- A probe with errors suppressed. After it the cleanup statement runs where there is one, and then
suppression is put back; a fault of the cleanup ends the probe before that. -/
def suppressed {Result : Type} (inspector : Inspector) (cleanup : Option Text)
    (probe : Action Result) : Action Result := do
  let before ← inspector.connection.suppress true
  Action.ensuring probe do
    match cleanup with
    | some sql => let _ ← inspector.connection.query sql
    | none => pure ()
    let _ ← inspector.connection.suppress before

/-- Whether the server accepts a statement. -/
def accepts (inspector : Inspector) (sql : Text) : Action Bool := do
  return (← inspector.connection.query sql).isSome

end Inspector

end DumpRestore
