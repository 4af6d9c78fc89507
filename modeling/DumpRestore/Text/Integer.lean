/-
This file reads integers the way people type them: blanks around, an optional sign, decimal digits
of any script, and single underscores between digits. The separators of ASCII are no blanks here.
An integer with too many digits is not read, so that no text can ask for endless work.
-/

import DumpRestore.Text.Blank
import DumpRestore.Text.Utf8

namespace DumpRestore.Text

/-! ### Digits and blanks -/

/-- The code points of the digit zero in the scripts outside ASCII. The nine digits after it
follow it directly. -/
def zeroDigits : List Nat := [
  0x660, 0x6F0, 0x7C0, 0x966, 0x9E6, 0xA66, 0xAE6, 0xB66, 0xBE6, 0xC66, 0xCE6, 0xD66, 0xDE6, 0xE50,
  0xED0, 0xF20, 0x1040, 0x1090, 0x17E0, 0x1810, 0x1946, 0x19D0, 0x1A80, 0x1A90, 0x1B50, 0x1BB0,
  0x1C40, 0x1C50, 0xA620, 0xA8D0, 0xA900, 0xA9D0, 0xA9F0, 0xAA50, 0xABF0, 0xFF10, 0x104A0, 0x10D30,
  0x11066, 0x110F0, 0x11136, 0x111D0, 0x112F0, 0x11450, 0x114D0, 0x11650, 0x116C0, 0x11730, 0x118E0,
  0x11950, 0x11C50, 0x11D50, 0x11DA0, 0x11F50, 0x16A60, 0x16AC0, 0x16B50, 0x1D7CE, 0x1D7D8, 0x1D7E2,
  0x1D7EC, 0x1D7F6, 0x1E140, 0x1E2F0, 0x1E4F0, 0x1E950, 0x1FBF0]

/-- The value of a decimal digit of any script. -/
def digitValue? (character : Char) : Option Nat :=
  let code := character.toNat
  if character.isDigit then some (code - 0x30)
  else (zeroDigits.find? fun origin => origin ≤ code && code < origin + 10).map (code - ·)

/-- Whether a character counts as a blank around a number. -/
def isNumberBlank (character : Char) : Bool :=
  isBlank character && !(0x1C ≤ character.toNat && character.toNat ≤ 0x1F)

/-- A text without the blanks around a number, and with the digits of every script written in
ASCII. -/
def plainNumber (text : Text) : Text :=
  (trimWhere isNumberBlank text).map fun character =>
    match digitValue? character with
    | some value => Char.ofNat (0x30 + value)
    | none => character

/-- The text without the underscores that stand between two ASCII digits; none where another
underscore is left. `afterDigit` says whether a digit stands before the text. -/
def dropUnderscores? (afterDigit : Bool) : Text → Option Text
  | [] => some []
  | '_' :: digit :: rest =>
    if afterDigit && digit.isDigit then (dropUnderscores? true rest).map (digit :: ·) else none
  | character :: rest =>
    if character == '_' then none
    else (dropUnderscores? character.isDigit rest).map (character :: ·)

/-- The value of ASCII digits. -/
def digitsValue (digits : Text) : Nat :=
  digits.foldl (fun value digit => value * 10 + (digit.toNat - 0x30)) 0

/-- The sign before a number, true where it is a minus, and the text after it. -/
def readSign : Text → Bool × Text
  | '-' :: rest => (true, rest)
  | '+' :: rest => (false, rest)
  | text => (false, text)

/-! ### Integers -/

/-- The most digits that an integer may have where it is read. Leading zeros count. -/
def digitLimit : Nat := 4300

/-- Why a text is no integer: it does not have the form of one, or it has too many digits. -/
inductive IntegerFlaw where
  | malformed
  | tooLong (digits : Nat)
deriving Repr, DecidableEq

/-- What is said of an integer with too many digits. -/
def digitLimitMessage (digits : Nat) : Text :=
  "Exceeds the limit (" ++ ofNat digitLimit ++
    " digits) for integer string conversion: value has " ++ ofNat digits ++
    " digits; use sys.set_int_max_str_digits() to increase the limit"

/-- The integer that a text stands for, blanks around it left out. -/
def readInt (text : Text) : Except IntegerFlaw Int :=
  let (negative, body) := readSign (plainNumber text)
  match dropUnderscores? false body with
  | none => .error .malformed
  | some digits =>
    if digits.isEmpty || !digits.all Char.isDigit then .error .malformed
    else if digitLimit < digits.length then .error (.tooLong digits.length)
    else
      let value := Int.ofNat (digitsValue digits)
      .ok (if negative then -value else value)

/-- The integer that a text stands for, if it is one. -/
def readInt? (text : Text) : Option Int :=
  (readInt text).toOption

end DumpRestore.Text
