/-
This file says which characters are blank, and trims, splits and collapses texts at blanks.
The blanks are the characters the Unicode Standard gives the property White_Space, together with
the four information separators of ASCII; the zero-width space is not among them.
-/

import DumpRestore.Text.Basic

namespace DumpRestore.Text

/-- Whether a code point is blank. -/
def isBlankCode (code : Nat) : Bool :=
  (0x9 ≤ code && code ≤ 0xD) || (0x1C ≤ code && code ≤ 0x20) || code == 0x85 || code == 0xA0 ||
    code == 0x1680 || (0x2000 ≤ code && code ≤ 0x200A) || code == 0x2028 || code == 0x2029 ||
    code == 0x202F || code == 0x205F || code == 0x3000

/-- Whether a character is blank. -/
def isBlank (character : Char) : Bool :=
  isBlankCode character.toNat

/-- The text without its leading blanks. -/
def skipBlanks (text : Text) : Text :=
  text.dropWhile isBlank

/-- The text after at least one leading blank; none where the text starts with no blank. -/
def skipSomeBlanks? : Text → Option Text
  | character :: rest => if isBlank character then some (skipBlanks rest) else none
  | [] => none

/-- The text without its trailing blanks. -/
def dropTrailingBlanks (text : Text) : Text :=
  (text.reverse.dropWhile isBlank).reverse

/-- The text without blanks at either end. -/
def trim (text : Text) : Text :=
  dropTrailingBlanks (skipBlanks text)

/-- The maximal runs of characters that are not blank. -/
def words : Text → List Text
  | [] => []
  | [character] => if isBlank character then [] else [[character]]
  | character :: next :: rest =>
    if isBlank character then words (next :: rest)
    else if isBlank next then [character] :: words (next :: rest)
    else match words (next :: rest) with
      | [] => [[character]]
      | word :: others => (character :: word) :: others

/-- The words of a text with one blank between neighbours and none at the ends. -/
def collapse (text : Text) : Text :=
  join " " (words text)

end DumpRestore.Text
