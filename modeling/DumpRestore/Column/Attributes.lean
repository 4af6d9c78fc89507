/-
This file reads the attributes of a column: words, blanks, and groups in parentheses such as the
body of a CHECK. In a group, quoted stretches may hold anything but their own quote, and
parentheses nest once more. What matters for the storage of a column is said by the bare words,
those outside groups.
-/

import DumpRestore.Text.Keyword
import DumpRestore.Text.Blank

namespace DumpRestore

namespace Attributes

/-! ### Groups -/

/-- Where a reader of a group stands: directly in it, in a quoted stretch, or in the inner
parentheses. -/
inductive Place where
  | direct
  | quoted (quote : Char)
  | inner
deriving Repr, DecidableEq

/-- How many characters lead up to and include the parenthesis that closes the group. -/
def closingLength? : Place → Text → Option Nat
  | _, [] => none
  | .direct, character :: rest =>
    if character = ')' then some 1
    else
      let next := if character = '(' then .inner
        else if character = '\'' ∨ character = '"' then .quoted character
        else .direct
      (closingLength? next rest).map (· + 1)
  | .quoted quote, character :: rest =>
    let next := if character = quote then .direct else .quoted quote
    (closingLength? next rest).map (· + 1)
  | .inner, character :: rest =>
    if character = '(' then none
    else
      let next := if character = ')' then .direct else .inner
      (closingLength? next rest).map (· + 1)

/-- How many characters at the start of a text are attributes. The first `owed` of them belong to
a group that has been read already. -/
def runLength : (owed : Nat) → Text → Nat
  | _, [] => 0
  | owed + 1, _ :: rest => runLength owed rest + 1
  | 0, character :: rest =>
    if Text.isWordChar character || Text.isBlank character then runLength 0 rest + 1
    else if character = '(' then
      match closingLength? .direct rest with
      | some length => runLength length rest + 1
      | none => 0
    else 0

/-- A text cut behind the attributes at its start. -/
def split (text : Text) : Text × Text :=
  text.splitAt (runLength 0 text)

/-! ### Bare words -/

/-- A stretch of a text: a whole group, or what stands between groups. -/
inductive Piece where
  | bare (text : Text)
  | group (text : Text)
deriving Repr, DecidableEq

namespace Piece

/-- The characters of a piece. -/
def text : Piece → Text
  | .bare characters => characters
  | .group characters => characters

/-- Puts a character in front of a bare stretch. -/
def prependBare (character : Char) : List Piece → List Piece
  | .bare characters :: pieces => .bare (character :: characters) :: pieces
  | pieces => .bare [character] :: pieces

/-- Puts a character in front of a group. -/
def prependGroup (character : Char) : List Piece → List Piece
  | .group characters :: pieces => .group (character :: characters) :: pieces
  | pieces => .group [character] :: pieces

/-- The pieces of a text whose first `owed` characters belong to a group that has been read
already. -/
def cut : (owed : Nat) → Text → List Piece
  | _, [] => [.bare []]
  | 1, character :: rest => .group [character] :: cut 0 rest
  | owed + 2, character :: rest => prependGroup character (cut (owed + 1) rest)
  | 0, character :: rest =>
    match (if character = '(' then closingLength? .direct rest else none) with
    | some length => .bare [] :: prependGroup character (cut length rest)
    | none => prependBare character (cut 0 rest)

/-- The pieces of a text, bare stretches and groups in turn, a bare one first and last. -/
def ofText (text : Text) : List Piece :=
  cut 0 text

/-- The text that pieces make up. -/
def toText (pieces : List Piece) : Text :=
  pieces.flatMap Piece.text

end Piece

/-- The bare stretches of a text with a blank in the place of each group. -/
def bareWords (text : Text) : Text :=
  Text.join " " ((Piece.ofText text).filterMap fun
    | .bare characters => some characters
    | .group _ => none)

/-- Rewrites the bare stretches of a text and keeps the groups. -/
def mapBare (rewrite : Text → Text) (text : Text) : Text :=
  Piece.toText ((Piece.ofText text).map fun
    | .bare characters => .bare (rewrite characters)
    | .group characters => .group characters)

/-! ### Storage -/

/-- Whether attributes say that values are stored, in either spelling. -/
def declareStorage (text : Text) : Bool :=
  Text.hasWord "stored" (bareWords text) || Text.hasWord "persistent" (bareWords text)

/-- Whether attributes leave a column virtual: they say so, or they do not say that it is
stored. -/
def declareVirtual (text : Text) : Bool :=
  Text.hasWord "virtual" (bareWords text) || !declareStorage text

end Attributes

end DumpRestore
