/-
This file lays out the columns of a grid. A column is as wide as its longest cell and at least two
characters wider than its header. Columns of numbers stand on the right with their points below
each other, all others on the left without blanks around their cells. Terminal sequences take up no
room, and a cell of several lines is as wide as the longest of them.
-/

import DumpRestore.Grid.Cell
import DumpRestore.Text.Lines

namespace DumpRestore

/-! ### Measuring -/

/-- What is to be minded when cells are measured: whether terminal sequences occur in a grid, and
whether lines end in it. -/
structure Measure where
  isStyled : Bool
  isMultiline : Bool
deriving Repr, DecidableEq

namespace Measure

/-- The text of a value as it is looked at to find out how to measure. -/
def sample : Value → Text
  | .bytes content => Text.ofUtf8Dropping content
  | value => value.toText

/-- How a grid with headers and rows is measured. -/
def ofGrid (headers : List Text) (rows : List (List Value)) : Measure :=
  let all := Text.join "\t" (headers ++ rows.flatMap fun row => row.map sample)
  { isStyled := Text.hasSequence all
    isMultiline := all.any fun character => character == '\r' || character == '\n' }

/-- What is shown of a text. -/
def shown (measure : Measure) (text : Text) : Text :=
  if measure.isStyled then Text.visible text else text

/-- The width of a single line. -/
def lineWidth (measure : Measure) (line : Text) : Nat :=
  (measure.shown line).length

/-- The greatest of some widths, and no less than `least`. -/
def greatest (least : Nat) (widths : List Nat) : Nat :=
  widths.foldl max least

/-- The width of a text. -/
def width (measure : Measure) (text : Text) : Nat :=
  if measure.isMultiline then
    greatest 0 ((Text.returnPieces text).map measure.lineWidth)
  else measure.lineWidth text

end Measure

/-! ### Aligning -/

/-- The number of characters from the point of a number on, or from the exponent of a number without
a point; zero for integers and for texts that are no numbers. -/
def Text.pointDistance (text : Text) : Nat :=
  if (isNumber text || isGroupedNumber text) && (Text.readInt? text).isNone then
    match Text.splitLast? "." text with
    | some (_, after) => after.length + 1
    | none => match Text.splitLast? "e" (text.map Char.toLower) with
      | some (_, after) => after.length + 1
      | none => 0
  else 0

/-- A column of a grid: its header, whether it stands on the right, and the texts of its cells. -/
structure GridColumn where
  header : Text
  isRight : Bool
  texts : List Text
deriving Repr, DecidableEq

namespace GridColumn

/-- The column of a header and values. -/
def ofValues (measure : Measure) (header : Text) (cells : List Value) :
    Except CellFlaw GridColumn :=
  let kind := CellKind.ofColumn cells
  (cells.mapM (Cell.text measure.isStyled kind)).map fun texts =>
    { header, isRight := kind.isRight, texts }

/-- The cells with what stands around them inside the column: on the right, blanks that bring the
points below each other, and on the left no blanks. -/
def prepared (measure : Measure) (column : GridColumn) : List Text :=
  if column.isRight then
    let distances := column.texts.map fun text => Text.pointDistance (measure.shown text)
    let greatest := Measure.greatest 0 distances
    column.texts.zipWith (fun text distance =>
      text ++ List.replicate (greatest - distance) ' ') distances
  else column.texts.map Text.trim

/-- The least width of the column, which its header asks for. -/
def leastWidth (measure : Measure) (column : GridColumn) : Nat :=
  measure.width column.header + 2

/-- A line with blanks on the side that the column leaves free, up to a number of characters. -/
def pad (column : GridColumn) (length : Nat) (line : Text) : Text :=
  if column.isRight then Text.padLeft length line else Text.padRight length line

/-- A cell with blanks up to a width. Where terminal sequences occur, each line of a cell is given
the room that the piece in the same place does not show. -/
def align (measure : Measure) (column : GridColumn) (width : Nat) (text : Text) : Text :=
  let room := fun (piece : Text) => width + piece.length - measure.lineWidth piece
  if measure.isMultiline then
    let lines := Text.lines text
    if measure.isStyled then
      Text.join "\n" (lines.zipWith (fun line piece => column.pad (room piece) line)
        (Text.returnPieces text))
    else Text.join "\n" (lines.map (column.pad width))
  else column.pad (room text) text

/-- The cells as they stand in the column. -/
def cells (measure : Measure) (column : GridColumn) : List Text :=
  let prepared := column.prepared measure
  let width := Measure.greatest (column.leastWidth measure) (prepared.map measure.width)
  prepared.map (column.align measure width)

/-- The width of the column. -/
def width (measure : Measure) (column : GridColumn) : Nat :=
  Measure.greatest (column.leastWidth measure) ((column.cells measure).map measure.width)

/-- The header as it stands in the column. -/
def headerCell (measure : Measure) (column : GridColumn) : Text :=
  column.pad (column.width measure + column.header.length - measure.width column.header)
    column.header

/-- The line below the header. -/
def rule (measure : Measure) (column : GridColumn) : Text :=
  List.replicate (column.width measure + 2) '-'

end GridColumn

end DumpRestore
