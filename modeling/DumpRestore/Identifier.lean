/-
This file quotes SQL identifiers and reads quoted ones, tells which names need no quotes, and cuts
names to the length a server accepts. The backtick is the character 0x60.
-/

import DumpRestore.Text.WordChar

namespace DumpRestore.Identifier

/-- The name in backticks, every backtick in it written twice. -/
def backquote (name : Text) : Text :=
  '\x60' :: Text.double '\x60' name ++ ['\x60']

/-- The name that stands between backticks: two backticks in a row are one. -/
def unquote (inside : Text) : Text :=
  Text.undouble '\x60' inside

/-- Reads the inside of backticks and what follows it. Two backticks in a row belong to the inside
where what follows can be read after them, and the first of them ends it otherwise. The inside
has at least one character; `begun` says that some stand before the text. -/
def readInside? {Rest : Type} (following? : Text → Option Rest) :
    (begun : Bool) → Text → Option (Text × Rest)
  | _, [] => none
  | begun, '\x60' :: '\x60' :: rest =>
    match readInside? following? true rest with
    | some (inside, result) => some ('\x60' :: '\x60' :: inside, result)
    | none =>
      if begun then (following? ('\x60' :: rest)).map fun result => ([], result) else none
  | begun, character :: rest =>
    if character = '\x60' then
      if begun then (following? rest).map fun result => ([], result) else none
    else (readInside? following? true rest).map fun (inside, result) =>
      (character :: inside, result)

/-- Whether a name consists of word characters alone, at least one. One newline may follow the
last of them. -/
def isPlain (name : Text) : Bool :=
  match name.span Text.isWordChar with
  | ([], _) => false
  | (_ :: _, rest) => rest == [] || rest == ['\n']

/-- The length that servers accept for an identifier. -/
def maxLength : Nat := 64

/-- The name cut to a bound; a negative bound leaves out that many characters at its end. -/
def cut (bound : Int) (name : Text) : Text :=
  Text.cut bound name

end DumpRestore.Identifier
