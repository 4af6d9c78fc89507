/-
This file spells out definitions of generated columns and proves that each of them is read back as
it was meant. The name may hold backticks, the expression anything that is balanced, and the
comment anything at all; the attributes are words, and they alone say how values are kept. The
backtick is the character 0x60.
-/

import DumpRestore.Proofs.Column.Head
import DumpRestore.Proofs.Column.Nesting
import DumpRestore.Proofs.Column.Tokens

namespace DumpRestore

/-! ### Data types -/

/-- A word of a data type, with a list directly behind it or without one. No expression opens at
the word: it is not AS, and it does not start with GENERATED. -/
structure TypeWord where
  word : Text.Word
  notAs : Text.isKeyword "as" word.text = false
  notGenerated : Text.keyword? "generated" word.text = none
  list : Option Text
  flat : ∀ inside ∈ list, '(' ∉ inside ∧ ')' ∉ inside

namespace TypeWord

/-- A word without a list. -/
def unlisted (word : Text.Word) (notAs : Text.isKeyword "as" word.text = false)
    (notGenerated : Text.keyword? "generated" word.text = none) : TypeWord where
  word
  notAs
  notGenerated
  list := none
  flat := fun _ impossible => by cases impossible

/-- The list in its parentheses, and nothing where there is none. -/
def listText (typeWord : TypeWord) : Text :=
  match typeWord.list with
  | none => []
  | some inside => '(' :: inside ++ [')']

/-- The words of a data type one after the other, a space in front of each. -/
def spaced (types : List TypeWord) : Text :=
  types.flatMap fun typeWord => ' ' :: typeWord.word.text ++ typeWord.listText

theorem spaced_cons (typeWord : TypeWord) (types : List TypeWord) :
    spaced (typeWord :: types) =
      ' ' :: (typeWord.word.text ++ (typeWord.listText ++ spaced types)) := by
  rw [spaced, List.flatMap_cons, List.cons_append, List.cons_append, List.append_assoc]
  rfl

theorem endsWord_spaced_append (types : List TypeWord) (rest : Text) (ends : Text.EndsWord rest) :
    Text.EndsWord (spaced types ++ rest) := by
  cases types with
  | nil => exact ends
  | cons typeWord types =>
    rw [spaced_cons]
    exact Text.endsWord_cons ' ' _ rfl

/-- A list, where there is one, ends the word in front of it. -/
theorem endsWord_listText_append (typeWord : TypeWord) (rest : Text) (ends : Text.EndsWord rest) :
    Text.EndsWord (typeWord.listText ++ rest) := by
  unfold listText
  split
  · exact ends
  · exact Text.endsWord_cons '(' _ rfl

theorem afterOpening?_word (typeWord : TypeWord) (rest : Text) (ends : Text.EndsWord rest) :
    Head.afterOpening? (typeWord.word.text ++ (typeWord.listText ++ rest)) = none :=
  Head.afterOpening?_word typeWord.word _ typeWord.notAs typeWord.notGenerated
    (typeWord.endsWord_listText_append rest ends)

/-- A data type goes on with such words. -/
theorem splitType?_spaced (types : List TypeWord) (rest dataType opening after : Text)
    (ends : Text.EndsWord rest)
    (read : ∀ mayEnd, Head.splitType? false mayEnd rest = some (dataType, opening, after))
    (mayEnd : Bool) :
    Head.splitType? false mayEnd (spaced types ++ rest) =
      some (spaced types ++ dataType, opening, after) := by
  induction types generalizing mayEnd with
  | nil => exact read mayEnd
  | cons typeWord types inductionHypothesis =>
    have list : Head.splitType? false false (typeWord.listText ++ (spaced types ++ rest)) =
        some (typeWord.listText ++ (spaced types ++ dataType), opening, after) := by
      cases equal : typeWord.list with
      | none =>
        rw [listText, equal]
        exact inductionHypothesis false
      | some inside =>
        obtain ⟨noOpen, noClose⟩ := typeWord.flat inside equal
        have further := Head.splitType?_list _ _ _ _ false inside noOpen noClose
          (inductionHypothesis true)
        rw [listText, equal]
        simpa only [List.append_assoc, List.cons_append, List.nil_append] using further
    have word := Head.splitType?_word _ _ _ _ typeWord.word (typeWord.afterOpening?_word _
      (endsWord_spaced_append types rest ends)) list
    rw [spaced_cons]
    simp only [List.cons_append, List.append_assoc]
    exact Head.splitType?_gap _ _ _ _ mayEnd ' ' rfl (by decide) rfl word

theorem opensNowhere_spaced (types : List TypeWord) (boundary : Bool) :
    Head.opensAnywhere boundary (spaced types) = false := by
  induction types generalizing boundary with
  | nil => rfl
  | cons typeWord types inductionHypothesis =>
    have ends := endsWord_spaced_append types [] Text.endsWord_nil
    rw [List.append_nil] at ends
    rw [spaced_cons, Head.opensAnywhere_gap boundary ' ' _ rfl,
      Head.opensAnywhere_word true typeWord.word _ (typeWord.afterOpening?_word _ ends), listText]
    cases equal : typeWord.list with
    | none => exact inductionHypothesis false
    | some inside =>
      obtain ⟨noOpen, _⟩ := typeWord.flat inside equal
      show Head.opensAnywhere false ('(' :: (inside ++ [')']) ++ spaced types) = false
      rw [List.cons_append, List.append_assoc, Head.opensAnywhere_gap false '(' _ rfl]
      exact (Head.opensAnywhere_flat true inside _ ')' noOpen rfl rfl (by decide)).trans
        (inductionHypothesis true)

end TypeWord

/-! ### The opening of an expression -/

namespace Head

/-- How the opening of an expression is spelled. -/
def openingText (always : Bool) : Text :=
  if always then "GENERATED ALWAYS AS (" else "AS ("

theorem afterOpening?_openingText (always : Bool) (after : Text) :
    afterOpening? (openingText always ++ after) = some after := by
  cases always <;> rfl

theorem splitType?_openingText (always : Bool) (after : Text) :
    splitType? false true (openingText always ++ after) =
      some ([], openingText always, after) := by
  have opens := afterOpening?_openingText always after
  have taken : (openingText always ++ after).take
      ((openingText always ++ after).length - after.length) = openingText always := by
    rw [List.length_append, Nat.add_sub_cancel, List.take_left]
  cases equal : openingText always with
  | nil => cases always <;> cases equal
  | cons character opening =>
    rw [equal, List.cons_append] at opens taken
    rw [List.cons_append]
    unfold splitType?
    simp only [if_true, opens, taken]

/-- The head of a source that starts with a quoted name is the name and what the text behind it is
cut into. -/
theorem find?_quoted (name behind dataType opening after : Text) (nonempty : name ≠ [])
    (ends : behind.head? ≠ some '\x60')
    (split : splitType? false false behind = some (dataType, opening, after)) :
    find? ('\x60' :: (Text.double '\x60' name ++ '\x60' :: behind)) =
      some { before := [], name := Text.double '\x60' name, dataType, opening, rest := after } := by
  have inside : Identifier.readInside? (splitType? false false) false
      (Text.double '\x60' name ++ '\x60' :: behind) =
      some (Text.double '\x60' name, dataType, opening, after) :=
    Identifier.readInside?_double _ name _ _ false (Or.inr nonempty) ends split
  rw [find?, if_pos rfl, inside]

end Head

/-! ### Definitions -/

/-- Whether attribute words leave a column virtual: VIRTUAL is one of them, or neither STORED nor
PERSISTENT is. -/
def Attributes.leaveVirtual (words : List Text.Word) : Bool :=
  let say (keyword : Text) := words.any fun word => Text.isKeyword keyword word.text
  say "virtual" || !(say "stored" || say "persistent")

/-- The definition of a generated column: its name, the words of its data type, whether GENERATED
ALWAYS is spelled out, its expression, and what follows: attributes, a comment, and attributes
behind the comment. -/
structure GeneratedDefinition where
  name : Text
  nonempty : name ≠ []
  types : List TypeWord
  always : Bool
  expression : Text
  balanced : Nesting.Balanced expression
  attributes : List Text.Word
  comment : Option Text
  trailing : List Text.Word

namespace GeneratedDefinition

variable (definition : GeneratedDefinition)

/-- The comment with its keyword, and nothing where there is none. -/
def commentText : Text :=
  match definition.comment with
  | none => []
  | some content => " COMMENT '" ++ Text.double '\'' content ++ "'"

/-- The text behind the expression. -/
def tailText : Text :=
  Text.spaced definition.attributes ++ definition.commentText ++ Text.spaced definition.trailing

/-- The expression from its keywords to its closing parenthesis. -/
def expressionText : Text :=
  Head.openingText definition.always ++ definition.expression ++ [')']

/-- The text in front of the expression. -/
def headText : Text :=
  Identifier.backquote definition.name ++ TypeWord.spaced definition.types ++ [' ']

/-- The definition as it is written. -/
def text : Text :=
  definition.headText ++ definition.expressionText ++ definition.tailText

/-- Whether the values are computed on reading. -/
def isVirtual : Bool :=
  Attributes.leaveVirtual (definition.attributes ++ definition.trailing)

/-- The head of the definition. -/
def head : Head where
  before := []
  name := Text.double '\x60' definition.name
  dataType := TypeWord.spaced definition.types ++ [' ']
  opening := Head.openingText definition.always
  rest := definition.expression ++ ')' :: definition.tailText

/-- The tail of the definition. Without a comment all words behind the expression are one run of
attributes. -/
def tail : Tail :=
  match definition.comment with
  | none =>
    { attributes := Text.spaced (definition.attributes ++ definition.trailing)
      comment := [], trailing := [] }
  | some content =>
    { attributes := Text.spaced definition.attributes ++ [' ']
      comment := "COMMENT " ++ '\'' :: (Text.double '\'' content ++ ['\''])
      trailing := Text.spaced definition.trailing }

theorem text_eq_head : definition.text = '\x60' :: (definition.head.name ++ '\x60' ::
    (TypeWord.spaced definition.types ++
      ' ' :: (definition.head.opening ++ definition.head.rest))) := by
  simp only [text, headText, expressionText, head, Identifier.backquote, List.append_assoc,
    List.cons_append, List.nil_append]

theorem find?_text : Head.find? definition.text = some definition.head := by
  have opens := Head.splitType?_openingText definition.always definition.head.rest
  have follows := TypeWord.splitType?_spaced definition.types
    (' ' :: (definition.head.opening ++ definition.head.rest)) [' '] definition.head.opening
    definition.head.rest (Text.endsWord_cons ' ' _ rfl)
    (fun mayEnd => Head.splitType?_gap _ _ _ _ mayEnd ' ' rfl (by decide) rfl opens) false
  have ends : (TypeWord.spaced definition.types ++
      ' ' :: (definition.head.opening ++ definition.head.rest)).head? ≠ some '\x60' := by
    cases definition.types <;> simp [TypeWord.spaced]
  rw [text_eq_head]
  exact Head.find?_quoted definition.name _ _ _ _ definition.nonempty ends follows

theorem ofText_tailText : Tail.ofText definition.tailText = definition.tail := by
  unfold tailText commentText tail
  cases definition.comment with
  | none =>
    dsimp only
    rw [List.append_nil, ← Text.spaced_append]
    exact Tail.ofText_of_onlyWords _ (Text.onlyWords_spaced _)
  | some content =>
    have spaceWords : Text.OnlyWords [' '] := Text.onlyWords_blank ' ' rfl
    have read := Tail.ofText_comment (Text.spaced definition.attributes ++ [' ']) content
      (Text.spaced definition.trailing) ((Text.onlyWords_spaced _).append spaceWords)
      (Text.onlyWords_spaced _)
    refine Eq.trans (congrArg Tail.ofText ?_) read
    show Text.spaced definition.attributes ++ (' ' :: ("COMMENT ".toList ++ ['\'']) ++
      Text.double '\'' content ++ ['\'']) ++ Text.spaced definition.trailing = _
    simp only [List.append_assoc, List.cons_append, List.nil_append]

/-- A source whose head goes on with the expression and the tail is read as these parts. -/
theorem parse?_of_find? (offset : Int) (source : Text) (head : Head)
    (found : Head.find? source = some head) (opening : head.opening = definition.head.opening)
    (rest : head.rest = definition.head.rest) :
    Column.parse? offset source =
      some (Column.ofParts offset head definition.expressionText definition.tail) := by
  have read := Column.parse?_of_find? offset source head definition.expression
    definition.tailText found definition.balanced rest
  rw [read, ofText_tailText, opening, expressionText, List.append_assoc]
  rfl

/-- The definition of a generated column is read back, at whatever position it stands. -/
theorem parse?_text (offset : Int) :
    Column.parse? offset definition.text =
      some (Column.ofParts offset definition.head definition.expressionText definition.tail) :=
  definition.parse?_of_find? offset definition.text definition.head definition.find?_text rfl rfl

/-! ### What a definition is read as -/

theorem name_ofParts (offset : Int) (expression : Text) (tail : Tail) :
    (Column.ofParts offset definition.head expression tail).name = definition.name :=
  Text.undouble_double '\x60' definition.name

/-- The expression stands behind the name and the data type. -/
theorem expression_ofParts (offset : Int) (tail : Tail) :
    (Column.ofParts offset definition.head definition.expressionText tail).token? .expression =
      some { kind := .expression, text := definition.expressionText,
             offset := offset + definition.headText.length } := by
  have typeNonempty : definition.head.dataType ≠ [] :=
    List.append_ne_nil_of_right_ne_nil _ (List.cons_ne_nil ' ' [])
  have expressionNonempty : definition.expressionText ≠ [] :=
    List.append_ne_nil_of_right_ne_nil _ (List.cons_ne_nil ')' [])
  have start : offset + (0 : Nat) + ((Identifier.backquote definition.name).length : Int) +
      definition.head.dataType.length = offset + definition.headText.length := by
    simp only [headText, head, List.length_append, Int.natCast_add]
    omega
  rw [Column.token?, Column.ofParts, Column.tokensFrom_cons_of_ne_nil _ _ _ _ typeNonempty,
    Column.tokensFrom_cons_of_ne_nil _ _ _ _ expressionNonempty, ← start]
  rfl

theorem onlyWords_tail :
    Text.OnlyWords definition.tail.attributes ∧ Text.OnlyWords definition.tail.trailing := by
  unfold tail
  cases definition.comment with
  | none => exact ⟨Text.onlyWords_spaced _, Text.onlyWords_spaced []⟩
  | some content =>
    have spaceWords : Text.OnlyWords [' '] := Text.onlyWords_blank ' ' rfl
    exact ⟨(Text.onlyWords_spaced _).append spaceWords, Text.onlyWords_spaced _⟩

/-- The attribute words of a definition are the words of its attributes. -/
theorem hasWord_ofParts (offset : Int) (head : Head) (expression keyword : Text) :
    Text.hasWord keyword (Column.attributeText
        (Column.ofParts offset head expression definition.tail).tokens) =
      (definition.attributes ++ definition.trailing).any fun word =>
        Text.isKeyword keyword word.text := by
  rw [Column.hasWord_attributeText, tail]
  cases definition.comment with
  | none =>
    show (Text.hasWord keyword (Text.spaced _) || false) = _
    rw [Bool.or_false, Text.hasWord_spaced]
  | some content =>
    show (Text.hasWord keyword (Text.spaced definition.attributes ++ [' ']) ||
      Text.hasWord keyword (Text.spaced definition.trailing)) = _
    rw [Text.hasWord_append_of_endsWord keyword _ [' '] (Text.endsWord_cons ' ' [] rfl),
      Text.hasWord_spaced, Text.hasWord_spaced, List.any_append]
    show (_ || false || _) = _
    rw [Bool.or_false]

/-- The attribute words alone say how values are kept. -/
theorem isVirtual_ofParts (offset : Int) (head : Head) (expression : Text) :
    (Column.ofParts offset head expression definition.tail).isVirtual =
      definition.isVirtual := by
  have onlyWords : Text.OnlyWords (Column.attributeText
      (Column.ofParts offset head expression definition.tail).tokens) := by
    obtain ⟨attributesWords, trailingWords⟩ := definition.onlyWords_tail
    exact Column.onlyWords_attributeText offset head expression definition.tail
      attributesWords trailingWords
  have words := definition.hasWord_ofParts offset head expression
  show Attributes.declareVirtual (Column.attributeText
    (Column.ofParts offset head expression definition.tail).tokens) = _
  rw [Attributes.declareVirtual_of_onlyWords _ onlyWords, words, words, words]
  rfl

end GeneratedDefinition

end DumpRestore
