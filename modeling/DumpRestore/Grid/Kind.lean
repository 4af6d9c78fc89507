/-
This file sorts the cells of a grid by what they hold, as far as the drawing of their column depends
on it. Texts and bytes that read as numbers count as numbers; what a terminal would not show of
them is left out before they are read.
-/

import DumpRestore.Number.Decimal
import DumpRestore.Text.Terminal
import DumpRestore.Value

namespace DumpRestore

namespace Text

/-! ### Numbers with groups of digits -/

/-- Whether a text is an integer whose digits are grouped in threes by commas, with an optional
sign. -/
def isGroupedInteger (text : Text) : Bool :=
  match splitOn ',' (readSign text).2 with
  | first :: groups =>
    1 ≤ first.length && first.length ≤ 3 && first.all Char.isDigit &&
      groups.all fun group => group.length == 3 && group.all Char.isDigit
  | [] => false

/-- Whether a text is a number whose digits before the point are grouped in threes by commas, a
newline at its end left out. Without digits before the point there have to be some behind it, unless
there is no point. -/
def isGroupedNumber (text : Text) : Bool :=
  let body := if text.getLast? == some '\n' then text.dropLast else text
  let (whole, fraction) : Text × Option Text := match splitFirst? "." body with
    | some (whole, fraction) => (whole, some fraction)
    | none => (body, none)
  (fraction.getD []).all Char.isDigit &&
    (if whole.isEmpty then fraction != some [] else isGroupedInteger whole)

/-- Whether a text reads as a number. An infinity and what is no number count only where they are
written as words of three letters, the infinity with or without a minus before it. -/
def isNumber (text : Text) : Bool :=
  match Binary64.read? text with
  | some number =>
    number.isFinite || ["inf", "-inf", "nan"].elem (String.ofList (text.map Char.toLower))
  | none => false

end Text

/-! ### Kinds -/

/-- What a cell holds. -/
inductive CellKind where
  | empty
  | flag
  | integer
  | number
  | bytes
  | words
deriving Repr, DecidableEq

namespace CellKind

/-- The kind of a text. -/
def ofText (content : Text) : CellKind :=
  let shown := Text.visible content
  if shown.isEmpty then .empty
  else if shown == "True".toList || shown == "False".toList then .flag
  else if (Text.readInt? shown).isSome || (Text.isGroupedNumber shown && !shown.elem '.') then .integer
  else if Text.isNumber shown || Text.isGroupedNumber shown then .number
  else .words

/-- The kind of a byte string. Only ASCII reads as a number. -/
def ofBytes (content : List UInt8) : CellKind :=
  let shown := Text.visibleBytes content
  if shown.isEmpty then .empty
  else if !shown.all fun character => character.toNat < 0x80 then .bytes
  else if (Text.readInt? shown).isSome then .integer
  else if ((Binary64.read? shown).map Binary64.isFinite).getD false then .number
  else .bytes

/-- The kind of a value. A growable byte string never counts as bytes, nor as an integer. -/
def ofValue : Value → CellKind
  | .null => .empty
  | .bool _ => .flag
  | .int _ => .integer
  | .decimal _ => .number
  | .text content => ofText content
  | .bytes content => ofBytes content
  | .buffer content => if (Binary64.readBytes? content).isSome then .number else .words
  | .list _ => .words

/-- The place of a kind among the kinds, the more general ones later. -/
def rank : CellKind → Nat
  | .empty => 0
  | .flag => 1
  | .integer => 2
  | .number => 3
  | .bytes => 4
  | .words => 5

/-- The more general of two kinds. -/
def join (first second : CellKind) : CellKind :=
  if first.rank < second.rank then second else first

/-- The kind of a column: the most general kind of its cells, and no less than that of a flag. -/
def ofColumn (cells : List Value) : CellKind :=
  (cells.map ofValue).foldl join .flag

/-- Whether a column of the kind stands on the right. -/
def isRight : CellKind → Bool
  | .integer | .number => true
  | _ => false

end CellKind

end DumpRestore
