/-
This file reads generated columns. A fragment of SQL is a generated column where it has a head, an
expression whose parenthesis closes, and a tail, which every text has. The tokens of the column
are the parts of the definition that are not empty. The backtick is the character 0x60.
-/

import DumpRestore.Column.Basic
import DumpRestore.Column.Head
import DumpRestore.Column.Nesting
import DumpRestore.Column.Tail

namespace DumpRestore.Column

/-- The tokens for parts that follow one another from a position on. A part that is empty gives
no token. -/
def tokensFrom (offset : Int) : List (TokenKind × Text) → List Token
  | [] => []
  | (kind, text) :: parts =>
    if text.isEmpty then tokensFrom offset parts
    else { kind, text, offset } :: tokensFrom (offset + text.length) parts

/-- The attribute words of tokens, those of different tokens kept apart by a blank. -/
def attributeText (tokens : List Token) : Text :=
  Text.join " " ((tokens.filter fun token => token.kind.holdsAttributes).map Token.text)

/-- The column whose head and tail are known, with the text from the opening of its expression to
the closing parenthesis. -/
def ofParts (offset : Int) (head : Head) (expression : Text) (tail : Tail) : Column :=
  let quotedName : Text := '\x60' :: head.name ++ ['\x60']
  let tokens := tokensFrom (offset + head.before.length + quotedName.length) [
    (.dataType, head.dataType), (.expression, expression), (.attributes, tail.attributes),
    (.comment, tail.comment), (.trailingAttributes, tail.trailing)]
  { definition := quotedName ++ head.dataType ++ expression ++ tail.attributes ++ tail.comment ++
      tail.trailing
    name := Identifier.unquote head.name
    isVirtual := Attributes.declareVirtual (attributeText tokens)
    tokens }

/-- The generated column in a fragment that stands at a position of its source, none where the
fragment holds no generated column. -/
def parse? (offset : Int) (fragment : Text) : Option Column :=
  (Head.find? fragment).bind fun head =>
    (Nesting.closingLength? 0 none head.rest).map fun length =>
      ofParts offset head (head.opening ++ head.rest.take length)
        (Tail.ofText (head.rest.drop length))

end DumpRestore.Column
