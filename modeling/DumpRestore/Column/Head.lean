/-
This file finds the head of a generated column: a name in backticks, a data type, and the keyword
AS with an opening parenthesis, with or without GENERATED ALWAYS before it. The head is the
leftmost one; its name extends as far as it can, its data type no further than it must.
The backtick is the character 0x60.
-/

import DumpRestore.Identifier
import DumpRestore.Text.Keyword
import DumpRestore.Text.Blank

namespace DumpRestore

/-- A source cut around the head of a generated column. The texts follow one another: what stands
before the backtick, the inside of the backticks, the data type, the opening of the expression
with its parenthesis, and the rest. -/
structure Head where
  before : Text
  name : Text
  dataType : Text
  opening : Text
  rest : Text
deriving Repr, DecidableEq

namespace Head

/-- The text after AS and an opening parenthesis. -/
def afterAs? (text : Text) : Option Text :=
  (Text.keyword? "as" text).bind fun rest =>
    match Text.skipBlanks rest with
    | '(' :: after => some after
    | _ => none

/-- The text after the opening of an expression. -/
def afterOpening? (text : Text) : Option Text :=
  let generated := (Text.keyword? "generated" text).bind fun rest =>
    (Text.keyword? "always" (Text.skipBlanks rest)).bind fun rest =>
      afterAs? (Text.skipBlanks rest)
  match generated with
  | some after => some after
  | none => afterAs? text

/-- Whether a character outside parentheses ends a data type. -/
def endsType (character : Char) : Bool :=
  character == ',' || character == '\'' || character == '"' || character == ')'

/-- Cuts a text into a data type, the opening of an expression and the rest, at the first place
where the data type may end. It may end behind a character that belongs to no word, outside
parentheses; `mayEnd` says so of the character before the text, `inList` whether a parenthesis is
open there. Parentheses in a data type do not nest. -/
def splitType? : (inList mayEnd : Bool) → Text → Option (Text × Text × Text)
  | _, _, [] => none
  | inList, mayEnd, character :: rest =>
    let further := fun (nextInList nextMayEnd : Bool) =>
      (splitType? nextInList nextMayEnd rest).map fun (dataType, opening, after) =>
        (character :: dataType, opening, after)
    match (if mayEnd then afterOpening? (character :: rest) else none) with
    | some after =>
      some ([], (character :: rest).take ((character :: rest).length - after.length), after)
    | none =>
      if inList then
        if character = '(' then none
        else if character = ')' then further false true
        else further true false
      else if character = '(' then further true false
      else if endsType character then none
      else further false (!Text.isWordChar character)

/-- The leftmost head in a text. -/
def find? : Text → Option Head
  | [] => none
  | character :: rest =>
    match (if character = '\x60' then Identifier.readInside? (splitType? false false) false rest
      else none) with
    | some (name, dataType, opening, after) =>
      some { before := [], name, dataType, opening, rest := after }
    | none => (find? rest).map fun head => { head with before := character :: head.before }

end Head

end DumpRestore
