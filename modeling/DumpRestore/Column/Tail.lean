/-
This file reads what follows the expression of a generated column: attributes, perhaps a comment,
and attributes after it. A comment is the keyword COMMENT and a literal in apostrophes or quotation
marks, in which the quote written twice stands for itself.
-/

import DumpRestore.Column.Attributes

namespace DumpRestore

/-- What follows an expression. The texts follow one another; a part that is missing is empty. -/
structure Tail where
  attributes : Text
  comment : Text
  trailing : Text
deriving Repr, DecidableEq

namespace Tail

/-- How many characters lead up to and include the quote that closes a literal. A quote written
twice belongs to the literal where a closing quote follows later; otherwise the first of the two
closes it. -/
def literalLength? (quote : Char) : Text → Option Nat
  | [] => none
  | character :: rest =>
    if character = quote then
      match rest with
      | [] => some 1
      | next :: after =>
        if next = quote then
          match literalLength? quote after with
          | some length => some (length + 2)
          | none => some 1
        else some 1
    else (literalLength? quote rest).map (· + 1)

/-- Whether a character is a quote that a comment may stand in. -/
def isCommentQuote (character : Char) : Bool :=
  character == '\'' || character == '"'

/-- How many characters the literal of a comment takes at the start of a text, both quotes
included. -/
def commentLiteralLength? : Text → Option Nat
  | character :: rest =>
    if isCommentQuote character then (literalLength? character rest).map (· + 1) else none
  | [] => none

/-- How many characters stand before the keyword COMMENT at the end of attributes, blanks after it
left out. -/
def beforeComment? (attributes : Text) : Option Nat :=
  (Text.keyword? "tnemmoc" (attributes.reverse.dropWhile Text.isBlank)).map List.length

/-- The tail at the start of a text. -/
def ofText (text : Text) : Tail :=
  let (attributes, rest) := Attributes.split text
  match beforeComment? attributes, commentLiteralLength? rest with
  | some before, some length =>
    { attributes := attributes.take before
      comment := attributes.drop before ++ rest.take length
      trailing := (Attributes.split (rest.drop length)).1 }
  | _, _ => { attributes, comment := [], trailing := [] }

end Tail

end DumpRestore
