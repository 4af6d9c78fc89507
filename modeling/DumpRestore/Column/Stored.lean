/-
This file rebuilds the definition of a generated column so that its values are stored, and writes
the statement that changes the column. Attribute words are rewritten outside groups only; all
other parts keep their words, with one blank between them.
-/

import DumpRestore.Column.Basic
import DumpRestore.Column.Attributes

namespace DumpRestore

/-- What a server accepts of generated columns: the keyword PERSISTENT, NOT NULL on a virtual
column, a value for a virtual column in an INSERT IGNORE, and an index on a virtual column. -/
structure ColumnSupport where
  persistentSupported : Bool
  notNullSupported : Bool
  insertIgnoreSupported : Bool
  virtualIndexSupported : Bool
deriving Repr, DecidableEq

namespace Column

/-! ### Attribute words -/

/-- The runs without NULL, and without NOT where blanks alone stand between it and a NULL. -/
def dropNullability : List Text.Run → List Text.Run
  | [] => []
  | .word first :: .gap between :: .word second :: rest =>
    if Text.isKeyword "not" first && between.all Text.isBlank && Text.isKeyword "null" second then
      dropNullability rest
    else if Text.isKeyword "null" first then dropNullability (.gap between :: .word second :: rest)
    else .word first :: dropNullability (.gap between :: .word second :: rest)
  | .word text :: rest =>
    if Text.isKeyword "null" text then dropNullability rest
    else .word text :: dropNullability rest
  | .gap text :: rest => .gap text :: dropNullability rest

/-- A run with STORED in the place of VIRTUAL, and of PERSISTENT where that is asked for. -/
def renameStorage (persistentToo : Bool) : Text.Run → Text.Run
  | .word text =>
    if Text.isKeyword "virtual" text || (persistentToo && Text.isKeyword "persistent" text) then
      .word "STORED"
    else .word text
  | .gap text => .gap text

/-- The bare words of attributes for a stored column. -/
def storedWords (isVirtual : Bool) (support : ColumnSupport) (words : Text) : Text :=
  let runs := Text.Run.ofText words
  let kept := if support.notNullSupported then runs else dropNullability runs
  Text.Run.toText (kept.map (renameStorage (!isVirtual && !support.persistentSupported)))

/-! ### Definition -/

/-- A part of a definition that is rebuilt. -/
abbrev Part := TokenKind × Text

/-- The part a token becomes. -/
def storedPart (isVirtual : Bool) (support : ColumnSupport) (token : Token) : Part :=
  let text := if token.kind.holdsAttributes then
      Attributes.mapBare (storedWords isVirtual support) token.text
    else token.text
  (token.kind, Text.collapse text)

/-- Whether a part says that values are stored. -/
def declaresStorage (part : Part) : Bool :=
  part.1.holdsAttributes && Attributes.declareStorage part.2

/-- Puts STORED behind the expression, or at the end where there is no expression. -/
def insertStored : List Part → List Part
  | [] => [(.attributes, "STORED")]
  | part :: rest =>
    if part.1 = .expression then part :: (.attributes, "STORED") :: rest
    else part :: insertStored rest

/-- The parts of the definition of a stored column. -/
def storedParts (column : Column) (support : ColumnSupport) : List Part :=
  let parts := (column.tokens.map (storedPart column.isVirtual support)).filter fun part =>
    !part.2.isEmpty
  if parts.any declaresStorage then parts else insertStored parts

/-- The definition of the column with its values stored. NULL and NOT NULL go where the server
does not accept them, PERSISTENT becomes STORED where the server does not know it, and STORED is
added where nothing says so yet. -/
def storedDefinition (column : Column) (support : ColumnSupport) : Text :=
  Text.join " " (Identifier.backquote column.name ::
    (column.storedParts support).map Prod.snd)

/-- The statement that makes the column of a table a stored one. -/
def alterToStored (table : Text) (column : Column) (support : ColumnSupport) : Text :=
  "ALTER TABLE " ++ Identifier.backquote table ++ " CHANGE " ++
    Identifier.backquote column.name ++ " " ++ column.storedDefinition support

end Column

end DumpRestore
