/-
This file tells whether an INSERT statement may write to generated columns. It finds the keywords
INSERT, INTO and VALUES, the table between the last two, and the column list where there is one.
Where the keywords and the table can be found in several ways, the first INTO counts, then the
shortest quoted name, then the longest bare one, then the shortest column list. The backtick is the
character 0x60.
-/

import DumpRestore.Identifier
import DumpRestore.Text.Keyword
import DumpRestore.Text.Blank

namespace DumpRestore.Insert

/-! ### Shape of the statement -/

/-- Whether a text goes on with VALUES and at least one character after it. -/
def hasValues (text : Text) : Bool :=
  match Text.keyword? "values" (Text.skipBlanks text) with
  | some (_ :: _) => true
  | _ => false

/-- The text up to the first closing parenthesis after which the values follow. The text is not
empty; `some` tells whether a character of it has been read. -/
def listBeforeValues? : (begun : Bool) → Text → Option Text
  | _, [] => none
  | begun, character :: rest =>
    if begun && character == ')' && hasValues rest then some []
    else (listBeforeValues? true rest).map (character :: ·)

/-- What follows the table: some column list, no column list, or nothing that makes a statement. -/
def afterTable? (text : Text) : Option (Option Text) :=
  let listed := match Text.skipBlanks text with
    | '(' :: inside => listBeforeValues? false inside
    | _ => none
  match listed with
  | some columns => some (some columns)
  | none => if hasValues text then some none else none

/-- What follows a table in backticks, the opening one left out. The name ends at the first
backtick after which a statement can follow, and has at least one character. -/
def afterQuotedTable? : (begun : Bool) → Text → Option (Option Text)
  | _, [] => none
  | begun, character :: rest =>
    match (if begun && character == '\x60' then afterTable? rest else none) with
    | some columns => some columns
    | none => afterQuotedTable? true rest

/-- What follows a table without quotes. Its name is the longest text without an opening
parenthesis after which a statement can follow, and has at least one character. -/
def afterBareTable? : Text → Option (Option Text)
  | [] => none
  | character :: rest =>
    if character = '(' then none
    else match afterBareTable? rest with
      | some columns => some columns
      | none => afterTable? rest

/-- What follows a table after INTO. -/
def afterInto? (text : Text) : Option (Option Text) :=
  let quoted := match Text.skipBlanks text with
    | '\x60' :: inside => afterQuotedTable? false inside
    | _ => none
  match quoted with
  | some columns => some columns
  | none => afterBareTable? text

/-- What follows the table after the first INTO that makes a statement. -/
def findInto? : Text → Option (Option Text)
  | [] => none
  | character :: rest =>
    match (Text.keyword? "into" (character :: rest)).bind afterInto? with
    | some columns => some columns
    | none => findInto? rest

/-- The column list of a statement: none where the text is no INSERT with values, and an inner none
where it has no column list. At least one character stands between INSERT and INTO. -/
def columnList? : Text → Option (Option Text)
  | [] => none
  | character :: rest =>
    match Text.keyword? "insert" (character :: rest) with
    | some after => findInto? (after.drop 1)
    | none => columnList? rest

/-! ### Names in the column list -/

/-- The text without its first and its last backtick, where at least one character stands between
them. -/
def dropOuterBackticks (text : Text) : Text :=
  let before := text.takeWhile (· != '\x60')
  let fromFirst := text.drop before.length
  let after := (fromFirst.reverse.takeWhile (· != '\x60')).reverse
  let span := fromFirst.take (fromFirst.length - after.length)
  if 3 ≤ span.length then before ++ (span.drop 1).dropLast ++ after else text

/-- The text after a backtick, a comma and a backtick with blanks between them. -/
def afterSeparator? : Text → Option Text
  | '\x60' :: rest =>
    match Text.skipBlanks rest with
    | ',' :: rest =>
      match Text.skipBlanks rest with
      | '\x60' :: after => some after
      | _ => none
    | _ => none
  | _ => none

/-- The names between separators of backtick, comma and backtick. The first `owed` characters
belong to a separator that has been read already. -/
def splitQuoted : (owed : Nat) → Text → List Text
  | _, [] => [[]]
  | owed + 1, _ :: rest => splitQuoted owed rest
  | 0, character :: rest =>
    match afterSeparator? (character :: rest) with
    | some after => [] :: splitQuoted (rest.length - after.length) rest
    | none =>
      match splitQuoted 0 rest with
      | [] => [[character]]
      | name :: names => (character :: name) :: names

/-- The names in a column list, none where the list is blank. Where any name stands in backticks,
names are taken to be separated by backtick, comma and backtick. -/
def columnNames? (columns : Text) : Option (List Text) :=
  let columns := Text.trim columns
  if columns.isEmpty then none
  else if columns.elem '\x60' then
    some ((splitQuoted 0 (dropOuterBackticks columns)).map Identifier.unquote)
  else some ((Text.splitOn ',' columns).map Text.trim)

/-! ### Generated columns -/

/-- Whether a statement may write to one of the generated columns: none where it is no INSERT with
values, yes where it has no column list, and otherwise whether the list names one of them. -/
def writesTo? (generated : List Text) (statement : Text) : Option Bool :=
  (columnList? statement).map fun columns =>
    match columns.bind columnNames? with
    | none => true
    | some names => names.any generated.elem

end DumpRestore.Insert
