/-
This file reads and writes UTF-8. Reading cuts a byte string into characters and malformed pieces;
a malformed piece is the longest prefix of a well-formed sequence that stands there, or one byte
where no sequence starts. Strict reading stops at the first malformed piece and says why, lenient
reading puts the replacement character in the place of each.
-/

import DumpRestore.Text.Quoted

namespace DumpRestore.Text

/-- The bytes of a text in UTF-8. -/
def toUtf8 (text : Text) : List UInt8 :=
  (String.ofList text).toUTF8.toList

/-- Why bytes are no UTF-8. -/
inductive Utf8Fault where
  | invalidStart
  | invalidContinuation
  | unexpectedEnd
deriving Repr, DecidableEq

namespace Utf8Fault

/-- The fault in words. -/
def words : Utf8Fault → Text
  | .invalidStart => "invalid start byte"
  | .invalidContinuation => "invalid continuation byte"
  | .unexpectedEnd => "unexpected end of data"

end Utf8Fault

/-- A piece of a byte string read as UTF-8. -/
inductive Utf8Piece where
  | character (character : Char)
  | malformed (bytes : List UInt8) (fault : Utf8Fault)

/-- A sequence begun: its bytes so far in reverse, the value they carry, the bytes still owed, and
the bounds of the next one. -/
structure Utf8Begun where
  bytes : List UInt8
  value : Nat
  owed : Nat
  low : Nat
  high : Nat

/-- What a byte does where no sequence is begun: it is a character, it begins a sequence, or
neither. -/
inductive Utf8Start where
  | complete (character : Char)
  | begun (sequence : Utf8Begun)
  | refused

/-- The reading of a byte between characters. The bounds of the second byte keep out the
overlong sequences, the surrogates and the values beyond the last code point. -/
def Utf8Start.ofByte (byte : UInt8) : Utf8Start :=
  let value := byte.toNat
  if value < 0x80 then .complete (Char.ofNat value)
  else if value < 0xC2 then .refused
  else if value < 0xE0 then .begun ⟨[byte], value - 0xC0, 1, 0x80, 0xBF⟩
  else if value == 0xE0 then .begun ⟨[byte], 0, 2, 0xA0, 0xBF⟩
  else if value == 0xED then .begun ⟨[byte], 0xD, 2, 0x80, 0x9F⟩
  else if value < 0xF0 then .begun ⟨[byte], value - 0xE0, 2, 0x80, 0xBF⟩
  else if value == 0xF0 then .begun ⟨[byte], 0, 3, 0x90, 0xBF⟩
  else if value < 0xF4 then .begun ⟨[byte], value - 0xF0, 3, 0x80, 0xBF⟩
  else if value == 0xF4 then .begun ⟨[byte], 4, 3, 0x80, 0x8F⟩
  else .refused

/-- The pieces of a byte string, after the bytes of a sequence begun. -/
def utf8PiecesAfter : Option Utf8Begun → List UInt8 → List Utf8Piece
  | none, [] => []
  | some sequence, [] => [.malformed sequence.bytes.reverse .unexpectedEnd]
  | begun, byte :: rest =>
    let afresh := fun (_ : Unit) => match Utf8Start.ofByte byte with
      | .complete character => .character character :: utf8PiecesAfter none rest
      | .begun sequence => utf8PiecesAfter (some sequence) rest
      | .refused => .malformed [byte] .invalidStart :: utf8PiecesAfter none rest
    match begun with
    | none => afresh ()
    | some sequence =>
      if sequence.low ≤ byte.toNat && byte.toNat ≤ sequence.high then
        let value := sequence.value * 64 + (byte.toNat - 0x80)
        if sequence.owed ≤ 1 then .character (Char.ofNat value) :: utf8PiecesAfter none rest
        else utf8PiecesAfter
          (some ⟨byte :: sequence.bytes, value, sequence.owed - 1, 0x80, 0xBF⟩) rest
      else .malformed sequence.bytes.reverse .invalidContinuation :: afresh ()

/-- The characters and malformed pieces of a byte string. -/
def utf8Pieces (bytes : List UInt8) : List Utf8Piece :=
  utf8PiecesAfter none bytes

/-- Lenient reading: each malformed piece becomes one replacement character. -/
def ofUtf8Lenient (bytes : List UInt8) : Text :=
  (utf8Pieces bytes).map fun
    | .character character => character
    | .malformed _ _ => Char.ofNat 0xFFFD

/-- Reading that leaves malformed pieces out. -/
def ofUtf8Dropping (bytes : List UInt8) : Text :=
  (utf8Pieces bytes).filterMap fun
    | .character character => some character
    | .malformed _ _ => none

/-- The first malformed piece of a byte string: its position, its bytes and its fault. -/
structure Utf8Flaw where
  position : Nat
  bytes : List UInt8
  fault : Utf8Fault
deriving Repr, DecidableEq

/-- The flaw in words. -/
def Utf8Flaw.message (flaw : Utf8Flaw) : Text :=
  let opening : Text := "'utf-8' codec can't decode "
  let place : Text := match flaw.bytes with
    | [byte] => "byte 0x" ++ hexadecimal 2 byte.toNat ++ " in position " ++ ofNat flaw.position
    | _ => "bytes in position " ++ ofNat flaw.position ++ "-" ++
        ofNat (flaw.position + flaw.bytes.length - 1)
  opening ++ place ++ ": " ++ flaw.fault.words

/-- Strict reading of pieces that start at a position. -/
def strictAfter (position : Nat) : List Utf8Piece → Except Utf8Flaw Text
  | [] => .ok []
  | .character character :: rest =>
    (strictAfter (position + character.utf8Size) rest).map (character :: ·)
  | .malformed bytes fault :: _ => .error ⟨position, bytes, fault⟩

/-- Strict reading: the text, or the first flaw. -/
def ofUtf8 (bytes : List UInt8) : Except Utf8Flaw Text :=
  strictAfter 0 (utf8Pieces bytes)

/-! ### ASCII -/

/-- The text of bytes that are ASCII. -/
def ofAscii? (bytes : List UInt8) : Option Text :=
  if bytes.all (· < 0x80) then some (bytes.map fun byte => Char.ofNat byte.toNat) else none

end DumpRestore.Text
