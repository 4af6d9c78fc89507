/-
This file finds what a terminal acts on instead of showing it. A control sequence is an escape
character, a bracket, parameters, intermediate characters and one final character. A hyperlink
names an address, of which nothing is shown, and a link text, which is shown.
-/

import DumpRestore.Text.WordChar

namespace DumpRestore.Text

/-! ### Sequences -/

/-- Whether the code point of a character lies between two bounds. -/
def isBetween (low high : Nat) (character : Char) : Bool :=
  low ≤ character.toNat && character.toNat ≤ high

/-- The number of characters of the control sequence at the start of a text. -/
def controlLength? : Text → Option Nat
  | '\x1b' :: '[' :: rest =>
    let (parameters, rest) := rest.span (isBetween 0x30 0x3F)
    let (intermediates, rest) := rest.span (isBetween 0x20 0x2F)
    let length := parameters.length + intermediates.length + 3
    match rest with
    | final :: _ => if isBetween 0x40 0x7E final then some length else none
    | [] => none
  | _ => none

/-- Whether a text is a list of attributes. An attribute is two words with an equals sign between
them, and a colon may follow it; so two words, with or without a colon between them, stand between
neighbouring equals signs. -/
def isAttributeList (isWord : Char → Bool) (text : Text) : Bool :=
  text.isEmpty || checkFirst (splitOn '=' text)
where
  /-- Whether a text is one word. -/
  isName (piece : Text) : Bool :=
    !piece.isEmpty && piece.all isWord
  /-- Whether the texts behind equals signs fit. -/
  checkRest : List Text → Bool
    | [] => false
    | [last] => isName last || (last.getLast? == some ':' && isName last.dropLast)
    | piece :: next :: rest =>
      (match splitFirst? ":" piece with
        | some (value, name) => isName value && isName name
        | none => 2 ≤ piece.length && isName piece) && checkRest (next :: rest)
  /-- Whether the texts between equals signs fit. -/
  checkFirst : List Text → Bool
    | [] => false
    | first :: rest => isName first && checkRest rest

/-- The link text of the hyperlink at the start of a text, and the number of characters of the
hyperlink. -/
def hyperlink? (isWord : Char → Bool) (text : Text) : Option (Text × Nat) := do
  let opened ← List.isPrefixOf? "\x1b]8;".toList text
  let (attributes, rest) ← splitFirst? ";" opened
  let (address, rest) ← splitFirst? "\x1b" rest
  let rest ← List.isPrefixOf? "\\".toList rest
  let (link, rest) ← splitFirst? "\x1b" rest
  let rest ← List.isPrefixOf? "]8;;\x1b\\".toList rest
  if isAttributeList isWord attributes && !address.isEmpty && !link.isEmpty then
    some (link, text.length - rest.length)
  else none

/-- What a terminal shows of the sequence at the start of a text, and the number of characters of
the sequence. -/
def sequence? (isWord : Char → Bool) (text : Text) : Option (Text × Nat) :=
  match controlLength? text with
  | some length => some ([], length)
  | none => hyperlink? isWord text

/-! ### What is shown -/

/-- The text with every sequence that `read` finds replaced by what is shown of it; the first
`skipped` characters, which belong to a sequence already read, are left out. -/
def showAfter (read : Text → Option (Text × Nat)) : (skipped : Nat) → Text → Text
  | _, [] => []
  | skipped + 1, _ :: rest => showAfter read skipped rest
  | 0, character :: rest =>
    match read (character :: rest) with
    | some (shown, length) => shown ++ showAfter read (length - 1) rest
    | none => character :: showAfter read 0 rest

/-- The text without control sequences. -/
def dropControls (text : Text) : Text :=
  showAfter (fun rest => (controlLength? rest).map ([], ·)) 0 text

/-- What a terminal shows of a text. -/
def visible (text : Text) : Text :=
  showAfter (sequence? isWordChar) 0 text

/-- What a terminal shows of bytes, each read as the character of its number. Words are those of
ASCII. -/
def visibleBytes (bytes : List UInt8) : Text :=
  showAfter (sequence? fun character => character.isAlphanum || character == '_') 0
    (bytes.map fun byte => Char.ofNat byte.toNat)

/-- Whether a sequence stands anywhere in a text. -/
def hasSequence : Text → Bool
  | [] => false
  | character :: rest => (sequence? isWordChar (character :: rest)).isSome || hasSequence rest

end DumpRestore.Text
