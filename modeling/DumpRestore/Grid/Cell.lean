/-
This file writes the values of a column as the texts of its cells. In a column of numbers every
number is written with six significant digits; in a column of bytes, bytes that are ASCII are
written as their characters. Everything else is the plain text of the value.
-/

import DumpRestore.Grid.Kind
import DumpRestore.Number.General

namespace DumpRestore

/-- Why a value cannot be written in its column: an integer is greater than every number, or bytes
stand for a number where terminal sequences occur. -/
inductive CellFlaw where
  | integerTooLarge
  | bytesAmongSequences
deriving Repr, DecidableEq

namespace CellFlaw

/-- The flaw in words. -/
def message : CellFlaw → Text
  | .integerTooLarge => "int too large to convert to float"
  | .bytesAmongSequences => "a bytes-like object is required, not 'str'"

end CellFlaw

namespace Cell

/-! ### Integers -/

/-- Whether literals write a character as a two-digit number. -/
def isShortEscape (character : Char) : Bool :=
  let code := character.toNat
  (code < 0x20 && !(character == '\t' || character == '\n' || character == '\r')) ||
    (0x7F ≤ code && code ≤ 0xFF)

/-- Whether literals write a character in any other way than as itself. -/
def isEscape (character : Char) : Bool :=
  character.toNat < 0x20 || 0x7F ≤ character.toNat || character == '\\'

/-- Whether a character is a hexadecimal digit. -/
def isHexadecimal (character : Char) : Bool :=
  character.isDigit || ('a' ≤ character && character ≤ 'f') || ('A' ≤ character && character ≤ 'F')

/-- A styled number in a text: what opens the style, the number, and the text behind it. -/
structure StyledNumber where
  opening : Text
  number : Text
  rest : Text

/-- The styled number at the start of a text: a character that has to be escaped, a bracket, digits
and the letter m, the number, and another character that has to be escaped. -/
def styledNumberAt? : Text → Option StyledNumber
  | [] => none
  | mark :: rest =>
    let (hexadecimal, rest) := rest.span isHexadecimal
    match rest with
    | '[' :: rest =>
      let (style, rest) := rest.span Char.isDigit
      let (letters, rest) := rest.span fun character => character == 'm' || character == 'M'
      let (number, rest) := rest.span fun character => character.isDigit || character == '.'
      let isEnded := match rest with
        | next :: _ => isEscape next
        | [] => false
      if isShortEscape mark && !style.isEmpty && !letters.isEmpty && !number.isEmpty && isEnded then
        some { opening := mark :: hexadecimal ++ '[' :: style ++ letters, number, rest }
      else none
    | _ => none

/-- The first styled number in a text. -/
def styledNumber? : Text → Option StyledNumber
  | [] => none
  | character :: rest =>
    match styledNumberAt? (character :: rest) with
    | some styled => some styled
    | none => styledNumber? rest

/-- A text in a column of integers. A styled integer loses its leading zeros and what stands before
the style. -/
def integerText (content : Text) : Text :=
  match styledNumber? content with
  | some styled =>
    if styled.number.all Char.isDigit then
      styled.opening ++ Text.ofNat (Text.digitsValue styled.number) ++ styled.rest
    else content
  | none => content

/-! ### Numbers -/

/-- A number that was read, with six significant digits, or a text where none was read. -/
def numberOr (fallback : Text) : Option Binary64 → Text
  | some number => number.general
  | none => fallback

/-- A text in a column of numbers. Where terminal sequences occur, only what is shown of the text is
read and replaced. -/
def numberText (isStyled : Bool) (content : Text) : Text :=
  if isStyled then
    let shown := Text.visible content
    match Binary64.read? shown with
    | some number => Text.replaceAll shown number.general content
    | none => content
  else
    let plain := content.filter (· != ',')
    numberOr plain (Binary64.read? plain)

/-- Bytes in a column of numbers. -/
def numberBytes (isStyled : Bool) (content : List UInt8) : Except CellFlaw Text :=
  let asWritten := (Value.bytes content).toText
  if isStyled then
    let shown := Text.visibleBytes content
    if shown.all (fun character => character.toNat < 0x80) && (Binary64.read? shown).isSome then
      .error .bytesAmongSequences
    else .ok asWritten
  else .ok (numberOr asWritten (Binary64.readBytes? content))

/-- A value in a column of numbers. -/
def number (isStyled : Bool) : Value → Except CellFlaw Text
  | .bool flag => .ok (if flag then "1" else "0")
  | .int value => match Binary64.ofInt? value with
    | some number => .ok number.general
    | none => .error .integerTooLarge
  | .decimal digits => .ok (numberOr digits (Binary64.read? digits))
  | .text content => .ok (numberText isStyled content)
  | .bytes content => numberBytes isStyled content
  | .buffer content =>
    .ok (numberOr (Value.buffer content).toText (Binary64.readBytes? content))
  | value => .ok value.toText

/-! ### Cells -/

/-- Whether nothing is written for a value. -/
def isBlank : Value → Bool
  | .null => true
  | .text content => content.isEmpty
  | .bytes content => content.isEmpty
  | _ => false

/-- The text of a value in a column of a kind; `isStyled` says whether terminal sequences occur in
the grid. -/
def text (isStyled : Bool) (kind : CellKind) (value : Value) : Except CellFlaw Text :=
  if isBlank value then .ok []
  else match kind, value with
    | .number, _ => number isStyled value
    | .integer, .text content => .ok (integerText content)
    | .bytes, .bytes content | .bytes, .buffer content =>
      .ok ((Text.ofAscii? content).getD value.toText)
    | _, _ => .ok value.toText

end Cell

end DumpRestore
