/-
This file probes generated columns. It creates a throwaway table with a virtual column, tries what
the library has to know on it, and drops it before and after.
-/

import DumpRestore.Probe.Inspector

namespace DumpRestore.Inspector

/-! ### Names -/

/-- What the name of every throwaway table ends in: a random number and a digest of the time. -/
def tableSuffix (random : Int) (clock : Text) : Text :=
  "mrk_tmp_" ++ Text.ofInt random ++ Digest.md5Text (Text.toUtf8 clock)

/-- The name of a throwaway table. The prefix is cut where the name would be too long, the suffix
never. -/
def tableName (tablePrefix : Text) (random : Int) (clock : Text) : Text :=
  let suffix := tableSuffix random clock
  Identifier.cut (Int.ofNat Identifier.maxLength - suffix.length) tablePrefix ++ suffix

/-- The name of the index that is tried on the throwaway table. -/
def indexName : Text := "idx_mrk_generated_column_test"

/-- The name under which the result for a storage engine is cached. -/
def columnsKey (engine : Text) : Text :=
  "generated_column_" ++ engine

/-! ### Statements -/

/-- Drops the throwaway table. -/
def dropTable (table : Text) : Text :=
  "DROP TABLE IF EXISTS " ++ table

/-- Creates the throwaway table with a storage engine, or with the default one where none is
named. -/
def createTable (table engine : Text) : Text :=
  let engineClause : Text := if engine.isEmpty then [] else " ENGINE=" ++ engine
  "CREATE TABLE " ++ table ++
    " (`virtual_column` varchar(17) GENERATED ALWAYS AS ('virtual_column') " ++
    "VIRTUAL COMMENT 'virtual_column')" ++ engineClause

/-- Adds a column with the keyword PERSISTENT. -/
def addPersistentColumn (table : Text) : Text :=
  "ALTER TABLE " ++ table ++ " ADD `persistent_column` VARCHAR(17) AS ('persistent_column') " ++
    "PERSISTENT COMMENT 'generated_column'"

/-- Adds a virtual column that is not null. -/
def addNotNullColumn (table : Text) : Text :=
  "ALTER TABLE " ++ table ++ " ADD `virtual_column_not_null` VARCHAR(17) " ++
    "AS ('virtual_column_not_null') VIRTUAL NOT NULL COMMENT 'virtual_column_not_null'"

/-- Inserts a row with a value for the virtual column. -/
def insertIgnore (table : Text) : Text :=
  "INSERT IGNORE INTO " ++ table ++ " (`virtual_column`) VALUES('virtual_column')"

/-- Creates an index on the virtual column. -/
def createIndex (table : Text) : Text :=
  "CREATE INDEX " ++ Identifier.backquote indexName ++ " ON " ++ table ++ " (virtual_column) " ++
    "COMMENT 'virtual_column' ALGORITHM DEFAULT LOCK DEFAULT"

/-! ### Probe -/

/-- What is tried on the throwaway table. A value for a virtual column is supported where the row
with it is inserted. -/
def tryColumns (inspector : Inspector) (table : Text) : Action ColumnSupport := do
  let persistentSupported ← inspector.accepts (addPersistentColumn table)
  let notNullSupported ← inspector.accepts (addNotNullColumn table)
  let inserted ← inspector.connection.query (insertIgnore table)
  let virtualIndexSupported ← inspector.accepts (createIndex table)
  return {
    persistentSupported, notNullSupported
    insertIgnoreSupported := inserted.any (· != 0)
    virtualIndexSupported }

/-- The probe on a throwaway table, none where the table cannot be created. -/
def probeColumns (inspector : Inspector) (table engine : Text) :
    Action (Option ColumnSupport) := do
  let _ ← inspector.connection.query (dropTable table)
  if ← inspector.accepts (createTable table engine) then
    return some (← inspector.tryColumns table)
  else
    let standing ← inspector.connection.standing
    let place : Text := if engine.isEmpty then [] else " by " ++ engine
    Action.report inspector.reporter .debug
      ("Generated columns are not supported" ++ place ++ ": " ++ standing.lastError)
    return none

/-- What the server supports of generated columns with a storage engine; none where it does not
support them at all. The empty name is the default engine, any other name has to be plain. -/
def columnSupport (inspector : Inspector) (engine : Text) : Action (Option ColumnSupport) := do
  if !engine.isEmpty && !Identifier.isPlain engine then
    throw (.invalidEngine engine)
  match ← inspector.cached? (columnsKey engine) with
  | some (.columns support) => return support
  | some _ => return none
  | none =>
    let session ← get
    let table := Identifier.backquote
      (tableName inspector.tablePrefix session.random session.clock)
    let support ← inspector.suppressed (some (dropTable table))
      (inspector.probeColumns table engine)
    match ← inspector.store (columnsKey engine) (.columns support) with
    | .columns kept => return kept
    | _ => return support

end DumpRestore.Inspector
