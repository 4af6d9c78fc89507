/-
This file writes texts and byte strings as quoted literals for messages. The quote is the
apostrophe, unless the content holds an apostrophe and no quotation mark. The quote and the
backslash are escaped, and so is every character that cannot be printed.
-/

import DumpRestore.Text.WordChar
import DumpRestore.Text.PrintableRanges

namespace DumpRestore.Text

/-- Whether a character can be printed as it is. -/
def isPrintable (character : Char) : Bool :=
  if character.toNat < 128 then 0x20 ≤ character.toNat && character.toNat < 0x7F
  else inRanges printableRanges character.toNat

/-- The lower-case hexadecimal digits of a number, filled with zeros up to a width. -/
def hexadecimal (width number : Nat) : Text :=
  let digits := Nat.toDigits 16 number
  List.replicate (width - digits.length) '0' ++ digits

/-- The numeric escape of a character, with as many digits as its code point needs. -/
def numericEscape (character : Char) : Text :=
  if character.toNat < 0x100 then "\\x" ++ hexadecimal 2 character.toNat
  else if character.toNat < 0x10000 then "\\u" ++ hexadecimal 4 character.toNat
  else "\\U" ++ hexadecimal 8 character.toNat

/-- The quote a content is enclosed in. -/
def quoteFor (content : Text) : Char :=
  if content.elem '\'' && !content.elem '"' then '"' else '\''

/-- One character of a literal enclosed in `quote`. -/
def escapeChar (quote : Char) (isPlain : Char → Bool) (character : Char) : Text :=
  if character == quote || character == '\\' then ['\\', character]
  else if character == '\n' then "\\n"
  else if character == '\r' then "\\r"
  else if character == '\t' then "\\t"
  else if isPlain character then [character]
  else numericEscape character

/-- The literal of a text. -/
def quoted (content : Text) : Text :=
  let quote := quoteFor content
  quote :: content.flatMap (escapeChar quote isPrintable) ++ [quote]

/-- The literal of a byte string, marked by a leading `b`. Every byte outside ASCII is written as
a number. -/
def quotedBytes (content : List UInt8) : Text :=
  let characters := content.map fun byte => Char.ofNat byte.toNat
  let quote := quoteFor characters
  let isPlain := fun (character : Char) => 0x20 ≤ character.toNat && character.toNat < 0x7F
  'b' :: quote :: characters.flatMap (escapeChar quote isPlain) ++ [quote]

end DumpRestore.Text
