/-
This file says what a definition is read as that is put together from its parts: which name, which
tokens at which positions, and whether the values are computed on reading. The words of the data
type may be missing, which leaves two spaces in a row; those are the data type then.
-/

import DumpRestore.Proofs.Column.Rendering

namespace DumpRestore

/-! ### Tokens in their places -/

/-- The parts that follow one another from a position on, each at its position, the empty ones
among them. -/
def Column.placed (offset : Int) : List (TokenKind × Text) → List Token
  | [] => []
  | (kind, text) :: parts => { kind, text, offset } :: placed (offset + text.length) parts

theorem Column.tokensFrom_eq_filter (offset : Int) (parts : List (TokenKind × Text)) :
    tokensFrom offset parts = (placed offset parts).filter fun token => !token.text.isEmpty := by
  induction parts generalizing offset with
  | nil => rfl
  | cons part parts inductionHypothesis =>
    obtain ⟨kind, text⟩ := part
    rw [tokensFrom_cons, placed, List.filter_cons]
    cases text with
    | nil =>
      have stays : offset + (([] : Text).length : Int) = offset := Int.add_zero offset
      rw [stays, ← inductionHypothesis]
      rfl
    | cons character text =>
      rw [← inductionHypothesis]
      rfl

/-! ### Data types with spaces between their words -/

namespace TypeWord

/-- The words of a data type, a space between neighbours. -/
def joined (types : List TypeWord) : Text :=
  Text.join " " (types.map fun typeWord => typeWord.word.text ++ typeWord.listText)

theorem spaced_eq_joined (first : TypeWord) (types : List TypeWord) :
    spaced (first :: types) = ' ' :: joined (first :: types) := by
  induction types generalizing first with
  | nil =>
    rw [spaced_cons]
    exact congrArg (' ' :: first.word.text ++ ·) (List.append_nil _)
  | cons second types inductionHypothesis =>
    have tail : joined (first :: second :: types) =
        first.word.text ++ first.listText ++ [' '] ++ joined (second :: types) :=
      Text.join_cons_cons " " _ _ _
    rw [spaced_cons, inductionHypothesis, tail]
    simp only [List.append_assoc, List.singleton_append]

/-- The data type in front of an opening is the words with the spaces around them. -/
theorem splitType?_joined (types : List TypeWord) (opening after : Text)
    (opens : Head.splitType? false true (opening ++ after) = some ([], opening, after)) :
    Head.splitType? false false (' ' :: (joined types ++ ' ' :: (opening ++ after))) =
      some (' ' :: (joined types ++ [' ']), opening, after) := by
  have space (mayEnd : Bool) : Head.splitType? false mayEnd (' ' :: (opening ++ after)) =
      some ([' '], opening, after) :=
    Head.splitType?_gap _ _ _ _ mayEnd ' ' rfl (by decide) rfl opens
  cases types with
  | nil => exact Head.splitType?_gap _ _ _ _ false ' ' rfl (by decide) rfl (space true)
  | cons first types =>
    have read := splitType?_spaced (first :: types) _ _ _ _ (Text.endsWord_cons ' ' _ rfl) space
      false
    rwa [spaced_eq_joined] at read

end TypeWord

namespace GeneratedDefinition

variable (definition : GeneratedDefinition)

/-! ### The written definition -/

/-- The data type with the space in front of it and the one behind it. -/
def dataType : Text :=
  ' ' :: (TypeWord.joined definition.types ++ [' '])

/-- The definition, put together from its parts. -/
def written : Text :=
  Identifier.backquote definition.name ++ " " ++ TypeWord.joined definition.types ++
    (if definition.always then " GENERATED ALWAYS" else "" : Text) ++ " AS (" ++
    definition.expression ++ ")" ++ Text.spaced definition.attributes ++ definition.commentText ++
    Text.spaced definition.trailing

theorem written_eq_head : definition.written = '\x60' :: (definition.head.name ++ '\x60' ::
    (' ' :: (TypeWord.joined definition.types ++
      ' ' :: (definition.head.opening ++ definition.head.rest)))) := by
  have opening : (if definition.always then " GENERATED ALWAYS" else "" : Text) ++ " AS (" =
      ' ' :: definition.head.opening := by
    unfold head Head.openingText
    cases definition.always <;> rfl
  rw [written, List.append_assoc _ _ (" AS (" : Text), opening]
  simp only [head, tailText, Identifier.backquote, List.append_assoc, List.cons_append,
    List.nil_append]
  rfl

/-- The head of the written definition. -/
def writtenHead : Head :=
  { definition.head with dataType := definition.dataType }

theorem find?_written : Head.find? definition.written = some definition.writtenHead := by
  rw [written_eq_head]
  exact Head.find?_quoted definition.name _ _ _ _ definition.nonempty
    (fun starts => by cases starts)
    (TypeWord.splitType?_joined definition.types _ _
      (Head.splitType?_openingText definition.always _))

/-! ### What it is read as -/

/-- The tokens of the written definition at a position: the parts behind the name, each at the
position behind the part in front of it. A part that is empty gives no token. -/
def tokens (offset : Int) : List Token :=
  let typeAt := offset + (Identifier.backquote definition.name).length
  let expressionAt := typeAt + definition.dataType.length
  let attributesAt := expressionAt + definition.expressionText.length
  let commentAt := attributesAt + definition.tail.attributes.length
  let trailingAt := commentAt + definition.tail.comment.length
  [{ kind := .dataType, text := definition.dataType, offset := typeAt },
    { kind := .expression, text := definition.expressionText, offset := expressionAt },
    { kind := .attributes, text := definition.tail.attributes, offset := attributesAt },
    { kind := .comment, text := definition.tail.comment, offset := commentAt },
    { kind := .trailingAttributes, text := definition.tail.trailing, offset := trailingAt }].filter
      fun token => !token.text.isEmpty

/-- A keyword is one of the attribute words, in upper or in lower case. -/
def Says (keyword : Text) : Prop :=
  ∃ word ∈ definition.attributes ++ definition.trailing,
    Text.isKeyword keyword word.text = true

theorem isVirtual_iff : definition.isVirtual = true ↔
    definition.Says "virtual" ∨ ¬ (definition.Says "stored" ∨ definition.Says "persistent") := by
  have stands (keyword : Text) : ((definition.attributes ++ definition.trailing).any fun word =>
      Text.isKeyword keyword word.text) = true ↔ definition.Says keyword := List.any_eq_true
  rw [isVirtual, Attributes.leaveVirtual, Bool.or_eq_true, Bool.not_eq_true', ← Bool.not_eq_true,
    Bool.or_eq_true, stands, stands, stands]

/-- The parts of the tail make it up. -/
theorem tail_parts : definition.tail.attributes ++ definition.tail.comment ++
    definition.tail.trailing = definition.tailText := by
  unfold tail tailText commentText
  cases definition.comment with
  | none =>
    dsimp only
    rw [Text.spaced_append, List.append_nil, List.append_nil, List.append_nil]
  | some content =>
    dsimp only
    simp only [List.append_assoc, List.cons_append, List.nil_append]
    rfl

theorem definition_ofParts (offset : Int) :
    (Column.ofParts offset definition.writtenHead definition.expressionText
      definition.tail).definition = definition.written := by
  rw [written_eq_head, Column.ofParts]
  simp only [writtenHead, dataType, head, expressionText, ← tail_parts, List.append_assoc,
    List.cons_append, List.nil_append]

theorem tokens_ofParts (offset : Int) :
    (Column.ofParts offset definition.writtenHead definition.expressionText
      definition.tail).tokens = definition.tokens offset := by
  have start : offset + (definition.writtenHead.before.length : Int) = offset :=
    Int.add_zero offset
  rw [Column.ofParts]
  dsimp only
  rw [start, Column.tokensFrom_eq_filter]
  rfl

/-- A definition put together from its parts is read as just these parts, at whatever position it
stands. -/
theorem column_of_written (offset : Int) :
    ∃ column, Column.parse? offset definition.written = some column ∧
      column.name = definition.name ∧ column.definition = definition.written ∧
      column.tokens = definition.tokens offset ∧
      (column.isVirtual = true ↔ definition.Says "virtual" ∨
        ¬ (definition.Says "stored" ∨ definition.Says "persistent")) := by
  refine ⟨_, definition.parse?_of_find? offset _ _ definition.find?_written rfl rfl, ?_,
    definition.definition_ofParts offset, definition.tokens_ofParts offset, ?_⟩
  · exact Text.undouble_double '\x60' definition.name
  · rw [isVirtual_ofParts, isVirtual_iff]

/-- A column with a backtick in its name. Its type has a list, its expression holds parentheses in
quotes, and its comment has an apostrophe and a keyword that is not said. -/
def netTotal : GeneratedDefinition where
  name := "net`total"
  nonempty := by decide
  types := [
    { word := .ofText "decimal" rfl
      notAs := by decide
      notGenerated := by decide
      list := some "10,2"
      flat := fun _ same => Option.some.inj same ▸ by decide },
    .unlisted (.ofText "unsigned" rfl) (by decide) (by decide)]
  always := true
  expression := "if(`a)` = '(', 0, (1))"
  balanced := by decide +kernel
  attributes := [.ofText "VIRTUAL" rfl, .ofText "UNIQUE" rfl]
  comment := some "it's not STORED"
  trailing := [.ofText "INVISIBLE" rfl]

/-- Its parts are read back as they were put in, the backtick written twice in the text alone. -/
theorem column_of_written_netTotal :
    netTotal.written = ("`net``total` decimal(10,2) unsigned GENERATED ALWAYS AS " ++
      "(if(`a)` = '(', 0, (1))) VIRTUAL UNIQUE COMMENT 'it''s not STORED' INVISIBLE" : Text) ∧
    ∃ column, Column.parse? 7 netTotal.written = some column ∧
      column.name = "net`total".toList ∧ column.definition = netTotal.written ∧
      column.tokens = [
        { kind := .dataType, text := " decimal(10,2) unsigned ", offset := 19 },
        { kind := .expression
          text := "GENERATED ALWAYS AS (if(`a)` = '(', 0, (1)))"
          offset := 43 },
        { kind := .attributes, text := " VIRTUAL UNIQUE ", offset := 87 },
        { kind := .comment, text := "COMMENT 'it''s not STORED'", offset := 103 },
        { kind := .trailingAttributes, text := " INVISIBLE", offset := 129 }] ∧
      column.isVirtual = true := by
  obtain ⟨column, parsed, name, whole, tokens, isVirtual⟩ := netTotal.column_of_written 7
  have saysVirtual : netTotal.Says "virtual" := ⟨.ofText "VIRTUAL" rfl, List.mem_cons_self, rfl⟩
  refine ⟨?_, column, parsed, name, whole, tokens.trans ?_, isVirtual.mpr (.inl saysVirtual)⟩ <;>
    decide +kernel

end GeneratedDefinition

/-! ### Any text behind the expression -/

namespace Column

/-- The head of a column of integers whose expression is a constant, in front of any text. -/
def constantHead (name behind : Text) : Head where
  before := []
  name := Text.double '\x60' name
  dataType := " int "
  opening := "AS ("
  rest := "1)" ++ behind

/-- A column of integers whose expression is a constant, with what is read behind it. -/
def constant (offset : Int) (name behind : Text) : Column :=
  ofParts offset (constantHead name behind) "AS (1)" (Tail.ofText behind)

theorem find?_constant (name behind : Text) (nonempty : name ≠ []) :
    Head.find? (Identifier.backquote name ++ " int AS (1)" ++ behind) =
      some (constantHead name behind) := by
  have opens := TypeWord.splitType?_joined
    [.unlisted (.ofText "int" rfl) rfl rfl] _ _
    (Head.splitType?_openingText false ("1)" ++ behind))
  have found := Head.find?_quoted name _ _ _ _ nonempty (fun starts => by cases starts) opens
  refine Eq.trans (congrArg Head.find? ?_) found
  simp only [Identifier.backquote, List.append_assoc, List.cons_append, List.nil_append]
  rfl

/-- Whatever stands behind it, a quoted name with a data type and an expression is read. -/
theorem parse?_constant (offset : Int) (name behind : Text) (nonempty : name ≠ []) :
    parse? offset (Identifier.backquote name ++ " int AS (1)" ++ behind) =
      some (constant offset name behind) :=
  parse?_of_find? offset _ _ "1" behind (find?_constant name behind nonempty) rfl rfl

theorem name_constant (offset : Int) (name behind : Text) :
    (constant offset name behind).name = name :=
  Text.undouble_double '\x60' name

theorem definition_constant (offset : Int) (name behind : Text) :
    (constant offset name behind).definition = Identifier.backquote name ++ " int AS (1)" ++
      ((Tail.ofText behind).attributes ++ (Tail.ofText behind).comment ++
        (Tail.ofText behind).trailing) := by
  rw [constant, ofParts]
  simp only [constantHead, Identifier.backquote, List.append_assoc, List.cons_append,
    List.nil_append]
  rfl

end Column

end DumpRestore
