/-
This file reads keywords whatever their case. A keyword is written in lower-case ASCII letters;
a letter of it stands for its two ASCII forms and for the few letters outside ASCII that a simple
case folding identifies with it: the long s with s, the dotless and the dotted i with i, and the
Kelvin sign with k.
-/

import DumpRestore.Text.WordChar

namespace DumpRestore.Text

/-- Whether a character is a form of a lower-case ASCII letter. -/
def isFormOf (letter character : Char) : Bool :=
  character.toLower == letter || (letter == 's' && character == 'ſ') ||
    (letter == 'i' && (character == 'ı' || character == 'İ')) ||
    (letter == 'k' && character.toNat == 0x212A)

/-- The text after a keyword at its start. -/
def keyword? : (keyword text : Text) → Option Text
  | [], text => some text
  | letter :: letters, character :: rest =>
    if isFormOf letter character then keyword? letters rest else none
  | _ :: _, [] => none

/-- Whether a whole text is a form of a keyword. -/
def isKeyword (keyword text : Text) : Bool :=
  keyword? keyword text == some []

/-- Whether a keyword is one of the words of a text. -/
def hasWord (keyword text : Text) : Bool :=
  (Run.ofText text).any fun
    | .word characters => isKeyword keyword characters
    | .gap _ => false

end DumpRestore.Text
