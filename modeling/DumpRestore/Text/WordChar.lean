/-
This file says which characters make up words: letters and numbers of every script, and the
underscore. A word of a text is a maximal run of such characters, and the file cuts a text into
its words and the gaps between them.
-/

import DumpRestore.Text.Basic
import DumpRestore.Text.WordRanges

namespace DumpRestore.Text

/-- Whether a code point lies in one of the ranges. -/
def inRanges (ranges : Array (Nat × Nat)) (code : Nat) : Bool :=
  ranges.any fun (first, last) => first ≤ code && code ≤ last

/-- Whether a character belongs to words: a letter, a number or the underscore. -/
def isWordChar (character : Char) : Bool :=
  if character.toNat < 128 then character.isAlphanum || character == '_'
  else inRanges wordRanges character.toNat

/-- A maximal run of word characters, or of characters between words. -/
inductive Run where
  | word (text : Text)
  | gap (text : Text)
deriving Repr, DecidableEq

namespace Run

/-- The characters of a run. -/
def text : Run → Text
  | .word characters => characters
  | .gap characters => characters

/-- Puts one more character in front of runs: it extends the first run of its own sort and
starts a run otherwise. -/
def prepend (character : Char) (runs : List Run) : List Run :=
  if isWordChar character then
    match runs with
    | .word characters :: others => .word (character :: characters) :: others
    | _ => .word [character] :: runs
  else
    match runs with
    | .gap characters :: others => .gap (character :: characters) :: others
    | _ => .gap [character] :: runs

/-- The words and gaps of a text in order. -/
def ofText (text : Text) : List Run :=
  text.foldr prepend []

/-- The text that the runs make up. -/
def toText (runs : List Run) : Text :=
  runs.flatMap Run.text

end Run

end DumpRestore.Text
