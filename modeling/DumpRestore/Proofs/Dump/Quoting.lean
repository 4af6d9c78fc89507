/-
This file proves that no name can end its own quoting. A name in backticks is one literal in front
of whatever starts with no backtick, since every backtick of the name is written twice. Names are
read back in two ways: to the end of the stretch that the backtick opens, and as headers read them,
where a shorter name is taken if nothing else can be read behind a longer one. Either way gives the
name itself, so that a header names its table, and a statement that stores a column names its table
and its column, whatever the names hold. The backtick is the character 0x60.
-/

import DumpRestore.Proofs.Column.Stored
import DumpRestore.Proofs.Dump.Headers
import DumpRestore.Proofs.Identifier
import DumpRestore.Proofs.Table.Stretches

namespace DumpRestore

/-! ### Readers of names -/

namespace Identifier

/-- The ways in which names in backticks are read: to the end of the stretch that the backtick
opens, and as the names in headers are. -/
inductive Reading where
  | stretch
  | header
deriving Repr, DecidableEq

variable {Rest : Type}

/-- The name in backticks at the start of a text, and what is read of the text behind it. -/
def read? (reading : Reading) (following? : Text → Option Rest) : Text → Option (Text × Rest)
  | '\x60' :: text =>
    match reading with
    | .stretch =>
      (Nesting.stretchLength? '\x60' text).bind fun length =>
        (following? (text.drop length)).map fun result =>
          (unquote (text.take (length - 1)), result)
    | .header =>
      (readInside? following? false text).map fun (inside, result) => (unquote inside, result)
  | _ => none

/-- A quoted name is read back where no backtick follows it and what follows can be read. -/
theorem read?_backquote (reading : Reading) (following? : Text → Option Rest) (name rest : Text)
    (result : Rest) (nonempty : name ≠ []) (ends : rest.head? ≠ some '\x60')
    (follows : following? rest = some result) :
    read? reading following? (backquote name ++ rest) = some (name, result) := by
  have opened : backquote name ++ rest =
      '\x60' :: (Text.double '\x60' name ++ '\x60' :: rest) := by
    rw [backquote, List.append_assoc]
    rfl
  rw [opened]
  cases reading with
  | stretch =>
    have length := (TableBody.enclosed_doubleBacktick name).stretchLength? rfl rest ends
    rw [read?, length, Option.bind_some, Nat.add_sub_cancel, List.take_left, ← List.drop_drop,
      List.drop_left, List.drop_one, List.tail_cons, follows, unquote, Text.undouble_double]
    rfl
  | header =>
    rw [read?, readInside?_double following? name rest result false (.inr nonempty) ends follows,
      Option.map_some]
    exact congrArg (fun read => some (read, result)) (Text.undouble_double '\x60' name)

/-- What is read behind words that stand at the start of a text. -/
def readBehind? (words : Text) (following? : Text → Option Rest) (text : Text) : Option Rest :=
  (words.isPrefixOf? text).bind following?

/-- A quoted name is read back behind the words in front of it. -/
theorem readBehind?_backquote (words : Text) (reading : Reading)
    (following? : Text → Option Rest) (name rest : Text) (result : Rest) (nonempty : name ≠ [])
    (ends : rest.head? ≠ some '\x60') (follows : following? rest = some result) :
    readBehind? words (read? reading following?) (words ++ (backquote name ++ rest)) =
      some (name, result) := by
  rw [readBehind?, List.isPrefixOf?_eq_some_iff_append_eq.mpr rfl, Option.bind_some,
    read?_backquote reading following? name rest result nonempty ends follows]

end Identifier

/-! ### Names in headers -/

/-- A header names its table. -/
theorem Dump.header?_backquote (table rest : Text) (nonempty : table ≠ [])
    (ends : rest.head? ≠ some '\x60') :
    header? ("CREATE TABLE " ++ Identifier.backquote table ++ rest) = some (table, rest) :=
  Identifier.read?_backquote .header some table rest rest nonempty ends rfl

/-! ### Names in statements that change a column -/

namespace Column

open Identifier

/-- The names in a statement that changes a column, with the text behind them: those of the table,
of the column, and of the column that takes its place. -/
def changedNames? (reading : Reading) : Text → Option (Text × Text × Text × Text) :=
  readBehind? "ALTER TABLE " <| read? reading <| readBehind? " CHANGE " <| read? reading <|
    readBehind? " " <| read? reading some

/-- Either way of reading gives the names that a statement was made for. -/
theorem changedNames?_alterToStored (reading : Reading) (table : Text) (column : Column)
    (support : ColumnSupport) (tableNamed : table ≠ []) (columnNamed : column.name ≠ []) :
    changedNames? reading (column.alterToStored table support) =
      some (table, column.name, column.name,
        ' ' :: Text.join " " ((column.storedParts support).map Prod.snd)) := by
  have spelled : column.alterToStored table support =
      "ALTER TABLE " ++ (backquote table ++ (" CHANGE " ++ (backquote column.name ++
        (" " ++ (backquote column.name ++
          ' ' :: Text.join " " ((column.storedParts support).map Prod.snd)))))) := by
    unfold alterToStored
    rw [storedDefinition_eq]
    simp only [List.append_assoc]
  -- From the right, since each name is read in front of what is read behind it.
  have inDefinition := readBehind?_backquote " " reading some column.name _ _ columnNamed
    (by simp) (rfl : some (' ' :: Text.join " " ((column.storedParts support).map Prod.snd)) = _)
  have behindTable := readBehind?_backquote " CHANGE " reading _ column.name _ _ columnNamed
    (by simp) inDefinition
  exact (congrArg _ spelled).trans
    (readBehind?_backquote "ALTER TABLE " reading _ table _ _ tableNamed (by simp) behindTable)

end Column

/-! ### Quoting and reading -/

namespace Identifier

/-- A quoted name is one literal in front of whatever starts with no backtick, and the name of a
table is read back from its header. The names of a table and of a column are read back, either way,
from the statement that stores the column. -/
theorem quoting_undone :
    (∀ name rest : Text, rest.head? ≠ some '\x60' →
      TableBody.IsLiteralBefore (backquote name) rest ∧
        (name ≠ [] →
          Dump.header? ("CREATE TABLE " ++ backquote name ++ rest) = some (name, rest))) ∧
      ∀ (reading : Reading) (table : Text) (column : Column) (support : ColumnSupport),
        table ≠ [] → column.name ≠ [] →
          ∃ definition, Column.changedNames? reading (column.alterToStored table support) =
            some (table, column.name, column.name, definition) := by
  refine ⟨fun name rest ends => ⟨?_, fun nonempty => ?_⟩,
    fun reading table column support tableNamed columnNamed => ?_⟩
  · exact TableBody.isLiteralBefore_backquote name rest ends
  · exact Dump.header?_backquote name rest nonempty ends
  · exact ⟨_, Column.changedNames?_alterToStored reading table column support tableNamed
      columnNamed⟩

/-- A name that looks like the end of its own quoting with a statement behind it. -/
def forgedName : Text := "\x60\x60 CHANGE \x60a\x60 \x60"

/-- A name that holds backticks at either end and the words between two names is read back. -/
theorem quoting_undone_forged :
    (TableBody.IsLiteralBefore (backquote forgedName) " (" ∧
      Dump.header? ("CREATE TABLE " ++ backquote forgedName ++ " (") =
        some (forgedName, (" (" : Text))) ∧
      ∃ definition, Column.changedNames? .stretch
        (Column.alterToStored forgedName
          { definition := "", name := forgedName, isVirtual := true, tokens := [] }
          (Dump.restoreSupport false)) =
        some (forgedName, forgedName, forgedName, definition) := by
  have named : forgedName ≠ [] := by decide
  obtain ⟨literal, header⟩ := quoting_undone.1 forgedName " (" (by decide)
  exact ⟨⟨literal, header named⟩, quoting_undone.2 .stretch forgedName _ _ named named⟩

end Identifier

end DumpRestore
