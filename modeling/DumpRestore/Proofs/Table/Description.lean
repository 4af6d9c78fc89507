/-
This file describes tables, writes the statements that create them, and proves that the generated
columns read from such a statement are those of the description.

A table has plain columns, generated columns and primary keys. The statement is cut at the commas
between them and nowhere else: commas, quotes and parentheses in names, lists, expressions and
comments are passed over. No expression opens in a plain column or a key, so neither is read as a
generated column. Lists in data types are read by two readers that agree on them only where their
quotes close within the list; without that condition a column can get lost.
-/

import DumpRestore.Table.Columns
import DumpRestore.Proofs.Column.Rendering
import DumpRestore.Proofs.Table.Passing

namespace DumpRestore

/-! ### Descriptions -/

/-- A line of a table: a plain column, a generated column, or a primary key whose names stand
between commas and blanks. -/
inductive TableLine where
  | plain (name : Text.Word) (types : List TypeWord)
  | generated (definition : GeneratedDefinition)
  | primaryKey (names : List Text.Word) (blanks : Text)
    (blank : ∀ character ∈ blanks, Text.isBlank character = true)

/-- What a line says of a generated column: its name, whether it is virtual, and its expression with
the position at which it stands. -/
structure Outline where
  name : Text
  isVirtual : Bool
  expression : Option Token
deriving DecidableEq

/-- The outline of a column. -/
def Column.outline (column : Column) : Outline :=
  { name := column.name
    isVirtual := column.isVirtual
    expression := column.token? .expression }

namespace TableLine

/-- The names of a key in backticks. -/
def keyText (names : List Text.Word) (blanks : Text) : Text :=
  Text.join (',' :: blanks) (names.map fun name => Identifier.backquote name.text)

/-- The line as it is written. -/
def text : TableLine → Text
  | plain name types => Identifier.backquote name.text ++ TypeWord.spaced types
  | generated definition => definition.text
  | primaryKey names blanks _ => "PRIMARY KEY " ++ '(' :: (keyText names blanks ++ [')'])

/-- The words of the data type of a line. -/
def types : TableLine → List TypeWord
  | plain _ types => types
  | generated definition => definition.types
  | primaryKey _ _ _ => []

/-- What a generated column at a position is read as; other lines are read as no column. -/
def outline? (position : Int) : TableLine → Option Outline
  | generated definition =>
    some {
      name := definition.name
      isVirtual := definition.isVirtual
      expression := some {
        kind := .expression
        text := definition.expressionText
        offset := position + definition.headText.length } }
  | _ => none

/-- No comment starts in the expression of a line outside quotes, and no backslash stands in its
comment. -/
def Quiet : TableLine → Prop
  | generated definition =>
    Nesting.opensComment none definition.expression = false ∧
      ∀ content ∈ definition.comment, '\\' ∉ content
  | _ => True

instance : (line : TableLine) → Decidable line.Quiet
  | plain _ _ => inferInstanceAs (Decidable True)
  | generated definition => inferInstanceAs (Decidable
      (Nesting.opensComment none definition.expression = false ∧
        ∀ content ∈ definition.comment, '\\' ∉ content))
  | primaryKey _ _ _ => inferInstanceAs (Decidable True)

/-- Quotes close within the lists of a line, and no comment starts in a list outside quotes. -/
def ListsClose (line : TableLine) : Prop :=
  ∀ typeWord ∈ line.types, ∀ inside ∈ typeWord.list,
    Nesting.Balanced inside ∧ Nesting.opensComment none inside = false

instance (line : TableLine) : Decidable line.ListsClose :=
  inferInstanceAs (Decidable (∀ typeWord ∈ line.types, ∀ inside ∈ typeWord.list,
    Nesting.Balanced inside ∧ Nesting.opensComment none inside = false))

/-- The outlines of the generated columns of lines that stand behind one another from a position on,
with a comma between neighbours. -/
def outlinesFrom (position : Int) : List TableLine → List Outline
  | [] => []
  | line :: lines =>
    (line.outline? position).toList ++ outlinesFrom (position + line.text.length + 1) lines

end TableLine

namespace TableBody

open TableLine

/-- What stands in front of the lines of a table. -/
def prologue (table : Text) : Text :=
  "CREATE TABLE " ++ Identifier.backquote table ++ " ("

/-- The statement that creates a table, with whatever follows it. -/
def statement (table : Text) (lines : List TableLine) (suffix : Text) : Text :=
  prologue table ++ Text.join "," (lines.map TableLine.text) ++ ')' :: suffix

/-! ### Lines without a generated column -/

theorem parse?_plain (offset : Int) (name : Text.Word) (types : List TypeWord) :
    Column.parse? offset (TableLine.plain name types).text = none := by
  have absent : '\x60' ∉ name.text := Text.not_mem_of_isWordChar '\x60' name.text rfl name.inWord
  have flat : '(' ∉ name.text := Text.not_mem_of_isWordChar '(' name.text rfl name.inWord
  have closed : Head.opensAnywhere false (TableLine.plain name types).text = false := by
    show Head.opensAnywhere false (Identifier.backquote name.text ++ _) = false
    rw [Identifier.backquote_of_not_mem name.text absent, List.cons_append, List.cons_append,
      List.append_assoc, List.singleton_append, Head.opensAnywhere_gap false '\x60' _ rfl,
      Head.opensAnywhere_flat true name.text _ '\x60' flat rfl rfl (by decide)]
    exact TypeWord.opensNowhere_spaced types true
  rw [Column.parse?, Head.find?_of_opensNowhere _ closed, Option.bind_none]

theorem not_mem_keyText (names : List Text.Word) (blanks : Text)
    (blank : ∀ character ∈ blanks, Text.isBlank character = true) :
    '(' ∉ keyText names blanks := by
  intro member
  rcases Text.mem_join _ _ _ member with ⟨text, inNames, inText⟩ | inSeparator
  · obtain ⟨name, _, rfl⟩ := List.mem_map.mp inNames
    have absent : '\x60' ∉ name.text := Text.not_mem_of_isWordChar '\x60' name.text rfl name.inWord
    have flat : '(' ∉ name.text := Text.not_mem_of_isWordChar '(' name.text rfl name.inWord
    rw [Identifier.backquote_of_not_mem name.text absent] at inText
    simp only [List.cons_append, List.mem_cons, List.mem_append, List.not_mem_nil, or_false]
      at inText
    rcases inText with quote | inName | quote
    · exact absurd quote (by decide)
    · exact flat inName
    · exact absurd quote (by decide)
  · rcases List.mem_cons.mp inSeparator with comma | inBlanks
    · exact absurd comma (by decide)
    · exact absurd (blank '(' inBlanks) (by decide)

theorem opensAnywhere_primaryKey (rest : Text) :
    Head.opensAnywhere false ("PRIMARY KEY " ++ '(' :: rest) = Head.opensAnywhere true rest := by
  let key := Text.Word.ofText "KEY" rfl
  have closed := Head.afterOpening?_word key (' ' :: '(' :: rest) (by decide) (by decide)
    (Text.endsWord_cons ' ' _ rfl)
  show Head.opensAnywhere false ("PRIMARY".toList ++ ' ' :: (key.text ++ ' ' :: '(' :: rest)) = _
  rw [Head.opensAnywhere_insideWord _ _ (List.all_eq_true.mp rfl),
    Head.opensAnywhere_gap false ' ' _ rfl,
    Head.opensAnywhere_word true key _ closed, Head.opensAnywhere_gap false ' ' _ rfl,
    Head.opensAnywhere_gap true '(' rest rfl]

theorem parse?_primaryKey (offset : Int) (names : List Text.Word) (blanks : Text)
    (blank : ∀ character ∈ blanks, Text.isBlank character = true) :
    Column.parse? offset (TableLine.primaryKey names blanks blank).text = none := by
  have flat := not_mem_keyText names blanks blank
  have closed :
      Head.opensAnywhere false (TableLine.primaryKey names blanks blank).text = false := by
    show Head.opensAnywhere false ("PRIMARY KEY " ++ '(' :: (keyText names blanks ++ [')'])) = false
    rw [opensAnywhere_primaryKey, Head.opensAnywhere_flat true _ [] ')' flat rfl rfl (by decide)]
    rfl
  rw [Column.parse?, Head.find?_of_opensNowhere _ closed, Option.bind_none]

/-- A line is read as what its outline says. -/
theorem outline_parse? (offset : Int) (line : TableLine) :
    (Column.parse? offset line.text).map Column.outline = line.outline? offset := by
  cases line with
  | plain name types =>
    rw [parse?_plain]
    rfl
  | primaryKey names blanks blank =>
    rw [parse?_primaryKey]
    rfl
  | generated definition =>
    show (Column.parse? offset definition.text).map Column.outline = _
    rw [definition.parse?_text offset, Option.map_some, Column.outline, definition.name_ofParts,
      definition.isVirtual_ofParts, definition.expression_ofParts]
    rfl

/-! ### Lines that are passed over -/

theorem goesOn_types (first : Text) (types : List TypeWord) :
    GoesOn first (TypeWord.spaced types) := by
  cases types with
  | nil => exact goesOn_nil first
  | cons typeWord types =>
    rw [TypeWord.spaced_cons]
    exact goesOn_of_starts first _ ' ' rfl

/-- The words of a data type are passed over where the quotes in its lists close. -/
theorem passed_types (types : List TypeWord)
    (close : ∀ typeWord ∈ types, ∀ inside ∈ typeWord.list,
      Nesting.Balanced inside ∧ Nesting.opensComment none inside = false) :
    Passed 1 (TypeWord.spaced types) := by
  induction types with
  | nil => exact passed_nil 1
  | cons typeWord types inductionHypothesis =>
    have further := inductionHypothesis fun other member =>
      close other (List.mem_cons_of_mem typeWord member)
    have list : Passed 1 (typeWord.listText ++ TypeWord.spaced types) := by
      unfold TypeWord.listText
      split
      · exact further
      · rename_i inside isList
        obtain ⟨balanced, quiet⟩ := close typeWord List.mem_cons_self inside isList
        exact (passed_balanced 1 inside (by decide) balanced quiet).append further
          (goesOn_of_ends ('(' :: inside) _ ')' rfl)
    have word := typeWord.word.onlyWords_space
    rw [TypeWord.spaced_cons]
    exact (passed_onlyWords 1 _ word).append list (goesOn_of_onlyWords _ _ word)

theorem passed_keyText (names : List Text.Word) (blanks : Text)
    (blank : ∀ character ∈ blanks, Text.isBlank character = true) :
    Passed 2 (keyText names blanks) := by
  have blanksWords : Text.OnlyWords blanks := fun character member =>
    Or.inr (blank character member)
  induction names with
  | nil => exact passed_nil 2
  | cons name names inductionHypothesis =>
    cases names with
    | nil => exact passed_backquote 2 name.text
    | cons second names =>
      have spread : keyText (name :: second :: names) blanks =
          Identifier.backquote name.text ++
            ([','] ++ (blanks ++ keyText (second :: names) blanks)) :=
        List.append_assoc _ (',' :: blanks) _
      have further := (passed_onlyWords 2 blanks blanksWords).append inductionHypothesis
        (goesOn_of_onlyWords blanks _ blanksWords)
      have behindName := (passed_comma 2 (by decide)).append further
        (goesOn_of_ends [] _ ',' rfl)
      rw [spread]
      exact (passed_backquote 2 name.text).append behindName (goesOn_of_starts _ _ ',' rfl)

section Generated

variable (definition : GeneratedDefinition)

theorem passed_headText
    (close : ∀ typeWord ∈ definition.types, ∀ inside ∈ typeWord.list,
      Nesting.Balanced inside ∧ Nesting.opensComment none inside = false) :
    Passed 1 definition.headText := by
  have name := passed_backquote 1 definition.name
  have types := passed_types definition.types close
  have space := passed_onlyWords 1 [' '] (Text.onlyWords_blank ' ' rfl)
  exact (name.append types (goesOn_types _ _)).append space (goesOn_of_starts _ [] ' ' rfl)

theorem exists_onlyWords_openingText (always : Bool) :
    ∃ words, Head.openingText always = words ++ ['('] ∧ Text.OnlyWords words := by
  cases always with
  | false => exact ⟨"AS ", rfl, Text.onlyWords_of_all _ rfl⟩
  | true => exact ⟨"GENERATED ALWAYS AS ", rfl, Text.onlyWords_of_all _ rfl⟩

theorem passed_expressionText (quiet : Nesting.opensComment none definition.expression = false) :
    Passed 1 definition.expressionText := by
  obtain ⟨words, spelled, onlyWords⟩ := exists_onlyWords_openingText definition.always
  have group := passed_balanced 1 definition.expression (by decide) definition.balanced quiet
  have whole : definition.expressionText = words ++ ('(' :: (definition.expression ++ [')'])) := by
    rw [GeneratedDefinition.expressionText, spelled, List.append_assoc, List.append_assoc]
    rfl
  rw [whole]
  exact (passed_onlyWords 1 words onlyWords).append group (goesOn_of_onlyWords words _ onlyWords)

theorem passed_commentText (plain : ∀ content ∈ definition.comment, '\\' ∉ content) :
    Passed 1 definition.commentText := by
  unfold GeneratedDefinition.commentText
  split
  · exact passed_nil 1
  · rename_i content isComment
    have keyword := Text.onlyWords_of_all " COMMENT " rfl
    have literal := passed_literal 1 content (plain content isComment)
    have passed := (passed_onlyWords 1 _ keyword).append literal
      (goesOn_of_onlyWords _ _ keyword)
    rw [← List.cons_append, ← List.append_assoc] at passed
    exact passed

/-- What stands behind an expression is passed over where no backslash stands in the comment. -/
theorem passed_tailText (plain : ∀ content ∈ definition.comment, '\\' ∉ content) :
    Passed 1 definition.tailText := by
  have attributesWords := Text.onlyWords_spaced definition.attributes
  have attributes := passed_onlyWords 1 _ attributesWords
  have comment := passed_commentText definition plain
  have trailing := passed_onlyWords 1 _ (Text.onlyWords_spaced definition.trailing)
  exact (attributes.append comment (goesOn_of_onlyWords _ _ attributesWords)).append trailing
    (goesOn_spaced _ _)

end Generated

theorem passed_line (line : TableLine) (quiet : line.Quiet) (listsClose : line.ListsClose) :
    Passed 1 line.text := by
  cases line with
  | plain name types =>
    exact (passed_backquote 1 name.text).append (passed_types types listsClose) (goesOn_types _ _)
  | primaryKey names blanks blank =>
    have keyword := Text.onlyWords_of_all "PRIMARY KEY " rfl
    exact (passed_onlyWords 1 _ keyword).append
      ((passed_keyText names blanks blank).group (by decide)) (goesOn_of_onlyWords _ _ keyword)
  | generated definition =>
    obtain ⟨expressionQuiet, commentPlain⟩ := quiet
    have head := passed_headText definition listsClose
    have expression := passed_expressionText definition expressionQuiet
    have tail := passed_tailText definition commentPlain
    have behindHead := expression.append tail (goesOn_of_ends _ _ ')' rfl)
    show Passed 1 (definition.headText ++ definition.expressionText ++ definition.tailText)
    rw [List.append_assoc]
    exact head.append behindHead (goesOn_of_ends _ _ ' ' rfl)

/-! ### Statements -/

theorem fragmentsFrom_prologue (table rest : Text) :
    fragmentsFrom .plain 0 0 none (prologue table ++ rest) =
      fragmentsFrom .plain (prologue table).length 1
        (some { offset := (prologue table).length, reversed := [] }) rest := by
  have keywords := Text.onlyWords_of_all "CREATE TABLE " rfl
  have ends : (' ' :: '(' :: rest).head? ≠ some '\x60' := by
    rw [List.head?_cons]
    decide
  have upToName := fragmentsFrom_onlyWords 0 0 none "CREATE TABLE "
    (Identifier.backquote table ++ (' ' :: '(' :: rest)) keywords
  have overName := (isLiteralBefore_backquote table (' ' :: '(' :: rest) ends).body (0 + 13) 0 none
  have overSpace := fragmentsFrom_onlyWords (0 + 13 + (Identifier.backquote table).length) 0 none
    [' '] ('(' :: rest) (Text.onlyWords_blank ' ' rfl)
  have begins := fragmentsFrom_begin (0 + 13 + (Identifier.backquote table).length + 1) rest
  have length : (prologue table).length =
      0 + 13 + (Identifier.backquote table).length + 1 + 1 := by
    show ("CREATE TABLE ".toList ++ Identifier.backquote table ++ [' ', '(']).length = _
    rw [List.length_append, List.length_append]
    show 13 + _ + 2 = _
    omega
  show fragmentsFrom .plain 0 0 none
    ("CREATE TABLE ".toList ++ Identifier.backquote table ++ [' ', '('] ++ rest) = _
  rw [List.append_assoc, List.append_assoc, length]
  exact upToName.trans (overName.trans (overSpace.trans begins))

/-- The outline of the column in a fragment. -/
def outlineIn (offset : Int) (fragment : Fragment) : Option Outline :=
  (Column.parse? (offset + fragment.offset) fragment.text).map Column.outline

/-- What is read from the lines of a table is what they say. -/
theorem filterMap_outlineIn_fragmentsOf (offset : Int) (position : Nat) (lines : List TableLine) :
    (fragmentsOf position (lines.map TableLine.text)).filterMap (outlineIn offset) =
      outlinesFrom (offset + position) lines := by
  induction lines generalizing position with
  | nil => rfl
  | cons line lines inductionHypothesis =>
    have outlined : outlineIn offset { text := line.text, offset := position } =
        line.outline? (offset + position) := outline_parse? (offset + position) line
    have further := inductionHypothesis (position + line.text.length + 1)
    rw [Int.natCast_add, Int.natCast_add, ← Int.add_assoc, ← Int.add_assoc] at further
    show List.filterMap _ (_ :: fragmentsOf _ (lines.map TableLine.text)) =
      (line.outline? (offset + position)).toList ++
        outlinesFrom (offset + position + line.text.length + 1) lines
    rw [List.filterMap_cons, outlined, further]
    cases line.outline? (offset + position) <;> rfl

/-- The lines of a table are the fragments of its body. -/
theorem filterMap_outlineIn_lines (offset : Int) (position : Nat) (lines : List TableLine)
    (suffix : Text) (passed : ∀ line ∈ lines, Passed 1 line.text) :
    (fragmentsFrom .plain position 1 (some { offset := position, reversed := [] })
        (Text.join "," (lines.map TableLine.text) ++ ')' :: suffix)).filterMap (outlineIn offset) =
      outlinesFrom (offset + position) lines := by
  rcases List.eq_nil_or_concat lines with rfl | some
  · show (fragmentsFrom .plain position 1 _ (')' :: suffix)).filterMap _ = []
    rw [fragmentsFrom_end]
    rfl
  · have nonempty : lines.map TableLine.text ≠ [] := by
      obtain ⟨init, last, rfl⟩ := some
      simp
    rw [fragmentsFrom_join position _ suffix nonempty ?_, filterMap_outlineIn_fragmentsOf]
    intro text member
    obtain ⟨line, inLines, rfl⟩ := List.mem_map.mp member
    exact (passed line inLines).isFragment

/-- What is read from the statement that creates a table is exactly its generated columns, each
once, in order, with their names, their storage, and their expressions where they stand. -/
theorem outline_columns_statement (offset : Int) (table suffix : Text) (lines : List TableLine)
    (quiet : ∀ line ∈ lines, line.Quiet) (listsClose : ∀ line ∈ lines, line.ListsClose) :
    (columns offset (statement table lines suffix)).map Column.outline =
      outlinesFrom (offset + (prologue table).length) lines := by
  have read := filterMap_outlineIn_lines offset (prologue table).length lines suffix
    fun line member => passed_line line (quiet line member) (listsClose line member)
  rw [columns, split, statement, List.map_filterMap, List.append_assoc, fragmentsFrom_prologue]
  exact read

/-- A plain column with a list in its data type, a generated column, and a key. -/
def listAndGenerated (inside : Text) (flat : '(' ∉ inside ∧ ')' ∉ inside) : List TableLine := [
  .plain (.ofText "a" rfl) [{
    word := .ofText "enum" rfl
    notAs := by decide
    notGenerated := by decide
    list := some inside
    flat := fun _ same => Option.some.inj same ▸ flat }],
  .generated {
    name := "b"
    nonempty := by decide
    types := [.unlisted (.ofText "int" rfl) (by decide) (by decide)]
    always := true
    expression := "concat('(', `a`)"
    balanced := by decide +kernel
    attributes := [.ofText "STORED" rfl]
    comment := some "it's, (one)"
    trailing := [] },
  .primaryKey [.ofText "a" rfl] [] (fun _ member => by cases member)]

/-- A table with commas, quotes and parentheses in a list, an expression and a comment. -/
theorem outline_columns_statement_generated :
    (∀ line ∈ listAndGenerated "'x, y','it''s'" (by decide), line.Quiet) ∧
    (∀ line ∈ listAndGenerated "'x, y','it''s'" (by decide), line.ListsClose) ∧
    (columns 7 (statement "t" (listAndGenerated "'x, y','it''s'" (by decide)) " ENGINE=InnoDB")).map
      Column.outline = [{
        name := "b"
        isVirtual := false
        expression := some {
          kind := .expression
          text := "GENERATED ALWAYS AS (concat('(', `a`))"
          offset := 58 } }] := by
  have quiet : ∀ line ∈ listAndGenerated "'x, y','it''s'" (by decide), line.Quiet := by
    decide +kernel
  have listsClose : ∀ line ∈ listAndGenerated "'x, y','it''s'" (by decide), line.ListsClose := by
    decide +kernel
  refine ⟨quiet, listsClose, ?_⟩
  rw [outline_columns_statement 7 "t" " ENGINE=InnoDB" _ quiet listsClose]
  decide +kernel

/-- The conditions on lists and names are needed. Behind a backslash in a list, or a comment that
starts there, the lines are not cut, and a wrong name is read; a column without a name is not read
at all. -/
theorem outline_columns_statement_hidden :
    (∀ line ∈ listAndGenerated "'x\\','y'" (by decide), line.Quiet) ∧
    (columns 0 (statement "t" (listAndGenerated "'x\\','y'" (by decide)) [])).map Column.outline ≠
      outlinesFrom (prologue "t").length (listAndGenerated "'x\\','y'" (by decide)) ∧
    (∀ line ∈ listAndGenerated "1#2" (by decide), line.Quiet) ∧
    (columns 0 (statement "t" (listAndGenerated "1#2" (by decide)) [])).map Column.outline ≠
      outlinesFrom (prologue "t").length (listAndGenerated "1#2" (by decide)) ∧
    columns 0 "CREATE TABLE `t` (`` int AS (1) STORED)" = [] := by
  refine ⟨?_, ?_, ?_, ?_, ?_⟩ <;> decide +kernel

end TableBody

end DumpRestore
