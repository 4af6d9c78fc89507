/-
This file defines the values that a database hands out, and the two texts of a value: the plain
text that goes into statements and tables, and the literal that goes into messages, in which
texts are quoted. It also defines rows and mappings of values under names.
-/

import DumpRestore.Text.Utf8

namespace DumpRestore

/-- A value of a database. A decimal number is kept as the text it is written with, and a byte
string may be fixed or growable. -/
inductive Value where
  | null
  | bool (flag : Bool)
  | int (number : Int)
  | decimal (digits : Text)
  | text (content : Text)
  | bytes (content : List UInt8)
  | buffer (content : List UInt8)
  | list (items : List Value)

namespace Value

instance : Inhabited Value := ⟨.null⟩

/-! ### Texts of a value -/

/-- The literal of a scalar value, in which texts are quoted. -/
def scalarLiteral : Value → Text
  | .null => "None"
  | .bool true => "True"
  | .bool false => "False"
  | .int number => Text.ofInt number
  | .decimal digits => digits
  | .text content => Text.quoted content
  | .bytes content => Text.quotedBytes content
  | .buffer content => "bytearray(" ++ Text.quotedBytes content ++ ")"
  | .list _ => []

mutual

/-- The literal of a value. A list stands in parentheses, and a list of one item keeps a comma. -/
def literal : Value → Text
  | .list items => "(" ++ itemLiterals items ++ (if items.length = 1 then ",)" else ")")
  | value => scalarLiteral value

/-- The literals of items with a comma and a blank between neighbours. -/
def itemLiterals : List Value → Text
  | [] => []
  | [item] => literal item
  | item :: next :: rest => literal item ++ ", " ++ itemLiterals (next :: rest)

end

/-- The plain text of a value: a text is itself, every other value is written as its literal. -/
def toText : Value → Text
  | .text content => content
  | value => literal value

/-! ### Truth -/

/-- Whether a decimal number is written with no digit but zero before its exponent. -/
def isZeroDecimal (digits : Text) : Bool :=
  (digits.takeWhile fun character => character != 'e' && character != 'E').all fun character =>
    character == '0' || character == '.' || character == '-'

/-- Whether a value counts as true: it is neither null nor false, zero or empty. -/
def isTruthy : Value → Bool
  | .null => false
  | .bool flag => flag
  | .int number => number != 0
  | .decimal digits => !isZeroDecimal digits
  | .text content => !content.isEmpty
  | .bytes content => !content.isEmpty
  | .buffer content => !content.isEmpty
  | .list items => !items.isEmpty

/-- The value itself where it counts as true, and `fallback` otherwise. -/
def orElse (value fallback : Value) : Value :=
  if value.isTruthy then value else fallback

end Value

/-! ### Rows -/

/-- A row of a result: the values under their column names, in column order. -/
abbrev Row := List (Text × Value)

namespace Row

/-- Gives a name a value: a name already there keeps its place and takes the new value. -/
def put (name : Text) (value : Value) : Row → Row
  | [] => [(name, value)]
  | (other, old) :: rest =>
    if other = name then (other, value) :: rest else (other, old) :: put name value rest

/-- The row read as a mapping: a repeated name keeps its first place and its last value. -/
def toMapping (row : Row) : Row :=
  row.foldl (fun mapping entry => put entry.1 entry.2 mapping) []

/-- The value under a name, null where the name is missing. -/
def get (name : Text) (row : Row) : Value :=
  match row.find? fun entry => entry.1 == name with
  | some (_, value) => value
  | none => .null

/-- The value in the first column, null where the row is empty. -/
def first : Row → Value
  | [] => .null
  | (_, value) :: _ => value

/-- The literal of a row read as a mapping. -/
def literal (row : Row) : Text :=
  "\x7b" ++ Text.join ", " (row.map fun (name, value) =>
    Text.quoted name ++ ": " ++ value.literal) ++ "\x7d"

end Row

end DumpRestore
