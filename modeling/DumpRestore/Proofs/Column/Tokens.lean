/-
This file describes how a column is made of its parts: the head, the expression in its parentheses
and the tail. Its tokens follow one another, they hold the texts of the parts, and the storage of
the column is read off the words of those tokens that hold attributes.
-/

import DumpRestore.Column.Parse
import DumpRestore.Proofs.Column.Nesting
import DumpRestore.Proofs.Column.Tail
import DumpRestore.Proofs.Text.Basic

namespace DumpRestore

namespace Column

/-! ### Parts -/

/-- A source whose head goes on with a balanced expression and its closing parenthesis is read as
these parts, whatever stands behind them. -/
theorem parse?_of_find? (offset : Int) (source : Text) (head : Head)
    (expression behind : Text) (found : Head.find? source = some head)
    (balanced : Nesting.Balanced expression) (rest : head.rest = expression ++ ')' :: behind) :
    parse? offset source =
      some (ofParts offset head (head.opening ++ (expression ++ [')'])) (Tail.ofText behind)) := by
  have split : head.rest = (expression ++ [')']) ++ behind := by
    rw [rest, List.append_assoc]
    rfl
  have closes : Nesting.closingLength? 0 none head.rest = some (expression ++ [')']).length := by
    rw [rest, List.length_append]
    exact balanced.closingLength? behind
  rw [parse?, found, Option.bind_some, closes, Option.map_some, split, List.take_left,
    List.drop_left]

/-! ### Tokens in a row -/

/-- Tokens that follow one another from a position on. -/
def Consecutive : Int → List Token → Prop
  | _, [] => True
  | offset, token :: tokens =>
    token.offset = offset ∧ Consecutive (offset + token.text.length) tokens

/-- No token of a row starts before the row does. -/
theorem Consecutive.le_offset {offset : Int} {tokens : List Token}
    (consecutive : Consecutive offset tokens) (token : Token) (member : token ∈ tokens) :
    offset ≤ token.offset := by
  induction tokens generalizing offset with
  | nil => cases member
  | cons first tokens inductionHypothesis =>
    obtain ⟨here, further⟩ := consecutive
    rcases List.mem_cons.mp member with rfl | inRest
    · exact Int.le_of_eq here.symm
    · have behind := inductionHypothesis further inRest
      omega

theorem tokensFrom_cons (offset : Int) (kind : TokenKind) (text : Text)
    (parts : List (TokenKind × Text)) :
    tokensFrom offset ((kind, text) :: parts) =
      if text.isEmpty then tokensFrom offset parts
      else { kind, text, offset } :: tokensFrom (offset + text.length) parts := rfl

theorem tokensFrom_cons_of_ne_nil (offset : Int) (kind : TokenKind) (text : Text)
    (parts : List (TokenKind × Text)) (nonempty : text ≠ []) :
    tokensFrom offset ((kind, text) :: parts) =
      { kind, text, offset } :: tokensFrom (offset + text.length) parts := by
  rw [tokensFrom_cons, List.isEmpty_eq_false_iff.mpr nonempty, if_neg Bool.false_ne_true]

theorem consecutive_tokensFrom (offset : Int) (parts : List (TokenKind × Text)) :
    Consecutive offset (tokensFrom offset parts) := by
  induction parts generalizing offset with
  | nil => trivial
  | cons part parts inductionHypothesis =>
    obtain ⟨kind, text⟩ := part
    rw [tokensFrom_cons]
    split
    · exact inductionHypothesis offset
    · exact ⟨rfl, inductionHypothesis _⟩

theorem flatMap_text_tokensFrom (offset : Int) (parts : List (TokenKind × Text)) :
    (tokensFrom offset parts).flatMap Token.text = parts.flatMap Prod.snd := by
  induction parts generalizing offset with
  | nil => rfl
  | cons part parts inductionHypothesis =>
    obtain ⟨kind, text⟩ := part
    rw [tokensFrom_cons]
    split
    · rename_i empty
      rw [inductionHypothesis, List.flatMap_cons, List.isEmpty_iff.mp empty, List.nil_append]
    · rw [List.flatMap_cons, List.flatMap_cons, inductionHypothesis]

/-- The words of the tokens are those of the parts, since an empty part has none. -/
theorem flatMap_words_tokensFrom (offset : Int) (parts : List (TokenKind × Text)) :
    (tokensFrom offset parts).flatMap (fun token => Text.words token.text) =
      parts.flatMap fun part => Text.words part.2 := by
  induction parts generalizing offset with
  | nil => rfl
  | cons part parts inductionHypothesis =>
    obtain ⟨kind, text⟩ := part
    rw [tokensFrom_cons]
    split
    · rename_i empty
      rw [inductionHypothesis, List.flatMap_cons, List.isEmpty_iff.mp empty]
      rfl
    · rw [List.flatMap_cons, List.flatMap_cons, inductionHypothesis]

theorem text_ne_nil_of_mem_tokensFrom (offset : Int) (parts : List (TokenKind × Text))
    (token : Token) (member : token ∈ tokensFrom offset parts) : token.text ≠ [] := by
  induction parts generalizing offset with
  | nil => cases member
  | cons part parts inductionHypothesis =>
    obtain ⟨kind, text⟩ := part
    rw [tokensFrom_cons] at member
    split at member
    · exact inductionHypothesis offset member
    · rename_i nonempty
      rcases List.mem_cons.mp member with rfl | behind
      · exact List.isEmpty_eq_false_iff.mp (Bool.eq_false_iff.mpr nonempty)
      · exact inductionHypothesis _ behind

/-- The kinds of the tokens are those of the parts, with those of empty parts left out. -/
theorem kinds_tokensFrom (offset : Int) (parts : List (TokenKind × Text)) :
    ((tokensFrom offset parts).map Token.kind).Sublist (parts.map Prod.fst) := by
  induction parts generalizing offset with
  | nil => exact List.Sublist.refl _
  | cons part parts inductionHypothesis =>
    obtain ⟨kind, text⟩ := part
    rw [tokensFrom_cons]
    split
    · exact (inductionHypothesis offset).cons kind
    · exact (inductionHypothesis _).cons_cons kind

/-- The text of the first token of a kind is that of the first part of the kind that is not
empty. -/
theorem map_text_find?_tokensFrom (offset : Int) (kind : TokenKind)
    (parts : List (TokenKind × Text)) :
    ((tokensFrom offset parts).find? fun token => token.kind == kind).map Token.text =
      (parts.find? fun part => part.1 == kind && !part.2.isEmpty).map Prod.snd := by
  induction parts generalizing offset with
  | nil => rfl
  | cons part parts inductionHypothesis =>
    obtain ⟨first, text⟩ := part
    rw [tokensFrom_cons, List.find?_cons]
    dsimp only
    cases text with
    | nil =>
      rw [List.isEmpty_nil, if_pos rfl, Bool.not_true, Bool.and_false]
      exact inductionHypothesis offset
    | cons character text =>
      rw [List.isEmpty_cons, if_neg Bool.false_ne_true, List.find?_cons, Bool.not_false,
        Bool.and_true]
      dsimp only
      cases first == kind with
      | true => rfl
      | false => exact inductionHypothesis _

/-- The text of the first token of a kind, none where a column has no token of that kind. -/
def tokenText? (kind : TokenKind) (column : Column) : Option Text :=
  (column.token? kind).map Token.text

/-- A part of a column that is not empty is the text of the token of its kind. -/
theorem tokenText?_ofParts (kind : TokenKind) (offset : Int) (head : Head) (expression : Text)
    (tail : Tail) :
    (ofParts offset head expression tail).tokenText? kind =
      ([(TokenKind.dataType, head.dataType), (.expression, expression),
          (.attributes, tail.attributes), (.comment, tail.comment),
          (.trailingAttributes, tail.trailing)].find? fun part =>
        part.1 == kind && !part.2.isEmpty).map Prod.snd :=
  map_text_find?_tokensFrom _ kind _

end Column

/-! ### Storage -/

namespace Attributes

theorem declareVirtual_of_onlyWords (words : Text) (onlyWords : Text.OnlyWords words) :
    declareVirtual words = (Text.hasWord "virtual" words ||
      !(Text.hasWord "stored" words || Text.hasWord "persistent" words)) := by
  rw [declareVirtual, declareStorage, bareWords_of_onlyWords words onlyWords]

end Attributes

namespace Column

/-- The tokens that hold attributes are those of the parts that do and are not empty. -/
theorem attributeText_tokensFrom (offset : Int) (parts : List (TokenKind × Text)) :
    attributeText (tokensFrom offset parts) = Text.join " "
      ((parts.filter fun part => part.1.holdsAttributes && !part.2.isEmpty).map Prod.snd) := by
  rw [attributeText]
  refine congrArg (Text.join " ") ?_
  induction parts generalizing offset with
  | nil => rfl
  | cons part parts inductionHypothesis =>
    obtain ⟨kind, text⟩ := part
    rw [tokensFrom]
    cases text with
    | nil =>
      rw [List.isEmpty_nil, if_pos rfl, inductionHypothesis, List.filter_cons]
      dsimp only
      rw [List.isEmpty_nil, Bool.not_true, Bool.and_false, if_neg Bool.false_ne_true]
    | cons character text =>
      rw [List.isEmpty_cons, if_neg Bool.false_ne_true, List.filter_cons, List.filter_cons]
      dsimp only
      rw [List.isEmpty_cons, Bool.not_false, Bool.and_true]
      cases kind.holdsAttributes with
      | false =>
        rw [if_neg Bool.false_ne_true, if_neg Bool.false_ne_true, inductionHypothesis]
      | true =>
        rw [if_pos rfl, if_pos rfl, List.map_cons, List.map_cons, inductionHypothesis]

/-- What counts for the storage of a column is the attributes in front of its comment and behind
it. -/
theorem attributeText_ofParts (offset : Int) (head : Head) (expression : Text) (tail : Tail) :
    attributeText (ofParts offset head expression tail).tokens = Text.join " "
      ([tail.attributes, tail.trailing].filter fun text => !text.isEmpty) := by
  rw [ofParts, attributeText_tokensFrom]
  refine congrArg (Text.join " ") ?_
  simp only [List.filter_cons, List.filter_nil, TokenKind.holdsAttributes, Bool.false_and,
    Bool.true_and, Bool.false_eq_true, if_false]
  split <;> split <;> rfl

theorem onlyWords_attributeText (offset : Int) (head : Head) (expression : Text) (tail : Tail)
    (attributesWords : Text.OnlyWords tail.attributes)
    (trailingWords : Text.OnlyWords tail.trailing) :
    Text.OnlyWords (attributeText (ofParts offset head expression tail).tokens) := by
  rw [attributeText_ofParts]
  intro character member
  rcases Text.mem_join _ _ character member with ⟨text, inTexts, inText⟩ | inSeparator
  · have isPart := (List.mem_filter.mp inTexts).1
    simp only [List.mem_cons, List.not_mem_nil, or_false] at isPart
    rcases isPart with rfl | rfl
    · exact attributesWords character inText
    · exact trailingWords character inText
  · exact Or.inr (List.mem_singleton.mp inSeparator ▸ rfl)

theorem hasWord_attributeText (offset : Int) (head : Head) (expression : Text) (tail : Tail)
    (keyword : Text) :
    Text.hasWord keyword (attributeText (ofParts offset head expression tail).tokens) =
      (Text.hasWord keyword tail.attributes || Text.hasWord keyword tail.trailing) := by
  have kept (text : Text) : (!text.isEmpty && Text.hasWord keyword text) =
      Text.hasWord keyword text := by
    cases text with
    | nil => rfl
    | cons character text => rfl
  rw [attributeText_ofParts, Text.hasWord_join, List.any_filter]
  simp only [List.any_cons, List.any_nil, kept, Bool.or_false]

end Column

end DumpRestore
