/-
This file defines what the library knows of a generated column: its name, whether its values are
computed on reading or stored, and the tokens its definition consists of, each with the position
at which its text stands in the SQL source.
-/

import DumpRestore.Identifier

namespace DumpRestore

/-- The parts of a column definition after the name, in the order in which they stand. A token
from elsewhere may be of a kind that no definition has. -/
inductive TokenKind where
  | dataType
  | expression
  | attributes
  | comment
  | trailingAttributes
  | other (name : Text)
deriving Repr, DecidableEq

namespace TokenKind

/-- Whether tokens of a kind hold attribute words, the ones that say how values are kept. -/
def holdsAttributes : TokenKind → Bool
  | .attributes => true
  | .trailingAttributes => true
  | _ => false

end TokenKind

/-- A part of a definition and the position of its first character in the source. -/
structure Token where
  kind : TokenKind
  text : Text
  offset : Int
deriving Repr, DecidableEq

/-- A generated column as it stands in a source: the text of its definition, its name without
quoting, whether it is virtual, and its tokens. -/
structure Column where
  definition : Text
  name : Text
  isVirtual : Bool
  tokens : List Token
deriving Repr, DecidableEq

namespace Column

/-- The first token of a kind. -/
def token? (kind : TokenKind) (column : Column) : Option Token :=
  column.tokens.find? fun token => token.kind == kind

end Column

end DumpRestore
