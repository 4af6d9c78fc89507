/-
This file draws grids of values with a line of headers, as Markdown knows them. A row whose first or
second cell is a lone separator mark is drawn as another line like the one below the headers, and
counts for nothing else. A row with cells of several lines takes up several lines.
-/

import DumpRestore.Grid.Layout

namespace DumpRestore.Grid

/-! ### Separators -/

/-- Whether a text is a lone separator mark, blanks around it left out. -/
def isMark (text : Text) : Bool :=
  Text.trim text == ['\x01']

/-- Whether a value is a lone separator mark. -/
def isMarkValue : Value → Bool
  | .text content => isMark content
  | _ => false

/-- Whether a row is a separator. -/
def isSeparator (row : List Value) : Bool :=
  (row.take 2).any isMarkValue

/-! ### Lines -/

/-- A line of cells. -/
def line (cells : List Text) : Text :=
  "| " ++ Text.join " | " cells ++ " |"

/-- The line below the headers. -/
def ruleLine (measure : Measure) (columns : List GridColumn) : Text :=
  "|" ++ Text.join "|" (columns.map (GridColumn.rule measure)) ++ "|"

/-- The lines of a row whose cells may have several lines. A cell with fewer lines than others is
filled up with blanks. -/
def stackedLines (widths : List Nat) (cells : List Text) : List Text :=
  let cellLines := cells.map Text.lines
  let height := Measure.greatest 0 (cellLines.map List.length)
  (List.range height).map fun index =>
    line (cellLines.zipWith (fun lines width => lines.getD index (List.replicate width ' ')) widths)

/-- The lines of a row. -/
def rowLines (measure : Measure) (widths : List Nat) (cells : List Text) : List Text :=
  if measure.isMultiline then stackedLines widths cells else [line cells]

/-- The lines of rows, of which `separators` says where separators stand between them. Where all
cells are single lines, a row that looks like a separator is drawn as one. -/
def bodyLines (measure : Measure) (rule : Text) (widths : List Nat) :
    (separators : List Bool) → (rows : List (List Text)) → List Text
  | [], _ => []
  | true :: separators, rows => rule :: bodyLines measure rule widths separators rows
  | false :: separators, row :: rows =>
    (if !measure.isMultiline && (row.take 2).any isMark then [rule]
      else rowLines measure widths row) ++ bodyLines measure rule widths separators rows
  | false :: _, [] => []

/-! ### Grids -/

/-- The columns of a grid. A row that is too short is filled with nothing. -/
def columns (measure : Measure) (headers : List Text) (rows : List (List Value)) :
    Except CellFlaw (List GridColumn) :=
  headers.zipIdx.mapM fun (header, index) =>
    GridColumn.ofValues measure header (rows.map fun row => row.getD index .null)

/-- The rows that cells make up which are given by column. -/
def transpose (count : Nat) (cells : List (List Text)) : List (List Text) :=
  (List.range count).map fun index => cells.map fun column => column.getD index []

/-- The lines of a grid: the headers, the line below them, and the rows. -/
def lines (headers : List Text) (rows : List (List Value)) : Except CellFlaw (List Text) :=
  let separators := rows.map isSeparator
  let kept := rows.filter fun row => !isSeparator row
  let measure := Measure.ofGrid headers kept
  (columns measure headers kept).map fun columns =>
    let widths := columns.map (GridColumn.width measure)
    let rule := ruleLine measure columns
    rowLines measure widths (columns.map (GridColumn.headerCell measure)) ++ [rule] ++
      bodyLines measure rule widths separators
        (transpose kept.length (columns.map (GridColumn.cells measure)))

/-- A grid as text, its lines separated by newlines. -/
def render (headers : List Text) (rows : List (List Value)) : Except CellFlaw Text :=
  (lines headers rows).map (Text.join "\n")

end DumpRestore.Grid
