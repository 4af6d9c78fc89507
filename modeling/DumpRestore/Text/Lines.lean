/-
This file cuts texts into lines. Line endings are the carriage return, the newline and the two
together; where every line break counts, so do the other characters that the Unicode Standard lets
end a line, and the separators of ASCII.
-/

import DumpRestore.Text.Basic

namespace DumpRestore.Text

/-- One newline in the place of every line ending: a carriage return, a newline, or one followed by
the other. -/
def unifyNewlines : Text → Text
  | '\r' :: '\n' :: rest => '\n' :: unifyNewlines rest
  | '\r' :: rest => '\n' :: unifyNewlines rest
  | character :: rest => character :: unifyNewlines rest
  | [] => []

/-- One newline in the place of a carriage return and the newline after it. A carriage return that
stands alone stays. -/
def joinReturns : Text → Text
  | '\r' :: '\n' :: rest => '\n' :: joinReturns rest
  | character :: rest => character :: joinReturns rest
  | [] => []

/-- Whether a character ends a line by itself. -/
def isLineBreak (character : Char) : Bool :=
  let code := character.toNat
  (0xA ≤ code && code ≤ 0xD) || (0x1C ≤ code && code ≤ 0x1E) || code == 0x85 || code == 0x2028 ||
    code == 0x2029

/-- The lines of a text without their ends. The text after the last line break is a line unless it
is empty. -/
def lines (text : Text) : List Text :=
  let pieces := splitWhere isLineBreak (unifyNewlines text)
  if pieces.getLast? == some [] then pieces.dropLast else pieces

/-- The pieces of a text between carriage returns and newlines, each of which cuts by itself. -/
def returnPieces (text : Text) : List Text :=
  splitWhere (fun character => character == '\r' || character == '\n') text

end DumpRestore.Text
