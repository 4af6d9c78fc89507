/-
This file reads what a user types. The input is taken in chunks of a fixed size, as many as are
needed until a line has ended, so that what lies behind the last chunk is left for other readers.
A chunk that ends within a character, or with a carriage return, leaves those bytes to the next
one.
-/

import DumpRestore.Text.Lines
import DumpRestore.Text.Utf8

namespace DumpRestore

/-- What was taken from the input and not used: text, and the bytes behind it that say nothing
before the next chunk. -/
structure Typed where
  text : Text := []
  held : List UInt8 := []
deriving Repr, DecidableEq

namespace Typed

/-! ### Chunks -/

/-- The number of bytes in a chunk. -/
def chunkSize : Nat := 8192

/-- Bytes in chunks, of which the last one may be shorter. -/
def chunks (input : List UInt8) : List (List UInt8) :=
  if input.isEmpty then []
  else input.take chunkSize :: chunks (input.drop chunkSize)
termination_by input.length
decreasing_by
  rename_i notEmpty
  have : 0 < input.length := List.length_pos_iff.mpr (by simpa using notEmpty)
  simp only [List.length_drop, chunkSize]
  omega

/-- Takes one more chunk. An unfinished character at its end is held back, and so is a carriage
return before that. -/
def take (typed : Typed) (chunk : List UInt8) : Except Text.Utf8Flaw Typed :=
  let bytes := typed.held ++ chunk
  let decoded : Except Text.Utf8Flaw (Text × List UInt8) := match Text.ofUtf8 bytes with
    | .ok text => .ok (text, [])
    | .error flaw =>
      if flaw.fault = .unexpectedEnd then
        .ok (Text.ofUtf8Lenient (bytes.take flaw.position), bytes.drop flaw.position)
      else .error flaw
  decoded.map fun (text, rest) =>
    let (text, held) : Text × List UInt8 :=
      if text.getLast? == some '\r' then (text.dropLast, 0x0D :: rest) else (text, rest)
    { text := typed.text ++ Text.unifyNewlines text, held }

/-- Takes the bytes that were held back where the input has ended. -/
def finish (typed : Typed) : Except Text.Utf8Flaw Text :=
  (Text.ofUtf8 typed.held).map fun text => typed.text ++ Text.unifyNewlines text

/-! ### Answers -/

/-- How the wait for a line ends: with a line that is not empty, with the end of the input, or with
bytes that are no text. -/
inductive Wait where
  | line (text : Text)
  | ended
  | flawed (flaw : Text.Utf8Flaw)
deriving Repr, DecidableEq

/-- An answer: how often the user was asked, how the wait ended, and what is left. -/
structure Answer where
  asked : Nat
  outcome : Wait
  typed : Typed := {}
  unread : List (List UInt8) := []
deriving Repr, DecidableEq

/-- Takes empty lines off the text, and the first other line where it has ended: the number of empty
lines, that line, and what is left. -/
def takeLine (typed : Typed) : Nat × Option Text × Typed :=
  let (empty, text) := typed.text.span (· == '\n')
  match Text.splitFirst? "\n" text with
  | some (line, rest) => (empty.length, some line, { typed with text := rest })
  | none => (empty.length, none, { typed with text })

/-- The end of a wait where the input has ended. What was typed last is a line unless it is
empty. -/
def lastAnswer (asked : Nat) (typed : Typed) : Answer :=
  match typed.finish with
  | .error flaw => { asked, outcome := .flawed flaw }
  | .ok text =>
    let (empty, line) := text.span (· == '\n')
    { asked := asked + empty.length
      outcome := if line.isEmpty then .ended else .line (line.takeWhile (· != '\n')) }

/-- Waits for a line that is not empty; the user has been asked `asked` times and is asked again
after every empty line. -/
def answer (asked : Nat) (typed : Typed) : (chunks : List (List UInt8)) → Answer
  | [] => match typed.takeLine with
    | (empty, some line, typed) => { asked := asked + empty, outcome := .line line, typed }
    | (empty, none, typed) => typed.lastAnswer (asked + empty)
  | chunk :: unread => match typed.takeLine with
    | (empty, some line, typed) =>
      { asked := asked + empty, outcome := .line line, typed, unread := chunk :: unread }
    | (empty, none, typed) => match typed.take chunk with
      | .ok typed => answer (asked + empty) typed unread
      | .error flaw => { asked := asked + empty, outcome := .flawed flaw, unread }

end Typed

end DumpRestore
