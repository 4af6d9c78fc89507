/-
This file reports the generated columns of a dump. A dump holds CREATE TABLE statements, each with a
header that names its table in backticks. The columns of a header are those of the body that
follows it, and their positions count from the start of the dump. The backtick is
the character 0x60.
-/

import DumpRestore.Column.Stored
import DumpRestore.Table.Columns

namespace DumpRestore

/-- The header of a CREATE TABLE statement: its position in the dump, the name of the table, and the
dump from the header on. -/
structure TableHeader where
  position : Nat
  table : Text
  statement : Text
deriving Repr, DecidableEq

namespace Dump

/-! ### Headers -/

/-- The text after a keyword and the blanks that must follow it. -/
def spacedKeyword? (keyword text : Text) : Option Text :=
  (Text.keyword? keyword text).bind Text.skipSomeBlanks?

/-- The text after several keywords, each with blanks behind it. -/
def spacedKeywords? (keywords : List Text) (text : Text) : Option Text :=
  keywords.foldlM (fun rest keyword => spacedKeyword? keyword rest) text

/-- The text after optional keywords. -/
def skipKeywords (keywords : List Text) (text : Text) : Text :=
  (spacedKeywords? keywords text).getD text

/-- The name of the table in a header at the start of a text, and the text after the header. -/
def header? (text : Text) : Option (Text × Text) :=
  (spacedKeywords? ["create"] text).bind fun text =>
    (spacedKeywords? ["table"] (skipKeywords ["temporary"] text)).bind fun text =>
      match skipKeywords ["if", "not", "exists"] text with
      | '\x60' :: inside =>
        (Identifier.readInside? some false inside).map fun (name, rest) =>
          (Identifier.unquote name, rest)
      | _ => none

/-- The headers in the rest of a dump from a position on. The first `owed` characters belong to a
header that has been read already. -/
def headersFrom : (owed position : Nat) → Text → List TableHeader
  | _, _, [] => []
  | owed + 1, position, _ :: rest => headersFrom owed (position + 1) rest
  | 0, position, character :: rest =>
    match header? (character :: rest) with
    | some (table, after) =>
      { position, table, statement := character :: rest } ::
        headersFrom (rest.length - after.length) (position + 1) rest
    | none => headersFrom 0 (position + 1) rest

/-- The headers in a dump, from left to right and without overlap. -/
def headers (dump : Text) : List TableHeader :=
  headersFrom 0 0 dump

/-! ### Columns -/

/-- The generated columns of a header. -/
def columnsOf (header : TableHeader) : List Column :=
  TableBody.columns header.position header.statement

/-- The generated columns of a dump, each with the table it is reported under. -/
def columns (dump : Text) : List (Text × Column) :=
  (headers dump).flatMap fun header =>
    (columnsOf header).map fun column => (header.table, column)

/-- What a server accepts on which a dump is restored: everything but a value for a virtual column,
and PERSISTENT on MariaDB only. -/
def restoreSupport (onMariaDb : Bool) : ColumnSupport :=
  { persistentSupported := onMariaDb
    notNullSupported := true
    insertIgnoreSupported := false
    virtualIndexSupported := true }

/-- The statements that store the columns of a dump, for the columns whose definition changes by
it. -/
def alterStatements (onMariaDb : Bool) (dump : Text) : List Text :=
  let support := restoreSupport onMariaDb
  (columns dump).filterMap fun (table, column) =>
    if column.storedDefinition support = Text.collapse column.definition then none
    else some (column.alterToStored table support ++ ";")

end Dump

end DumpRestore
