/-
This file reads decimal numbers: a sign, digits with an optional point among them, and an optional
exponent, or one of the words for infinity and for no number. Blanks, digits of other scripts and
underscores are read as in integers. The number that is read is the one nearest to what is written.
-/

import DumpRestore.Number.Binary64
import DumpRestore.Text.Integer

namespace DumpRestore.Binary64

/-- The powers of ten beyond which a number is surely infinite or zero. -/
def decimalReach : Int := 400

/-- The number nearest to ASCII digits times a power of ten. -/
def ofDigits (negative : Bool) (digits : Text) (exponent : Int) : Binary64 :=
  let significant := digits.dropWhile (· == '0')
  let order := significant.length + exponent
  if significant.isEmpty || order < -decimalReach then .finite negative 0 0
  else if decimalReach < order then .infinite negative
  else
    let value := Text.digitsValue significant
    ofQuotient negative (value * wholePower 10 exponent) (wholePower 10 (-exponent))

/-- The exponent that makes up the rest of a number, zero where there is none. -/
def readExponent? : Text → Option Int
  | [] => some 0
  | mark :: rest =>
    let (negative, digits) := Text.readSign rest
    if mark.toLower == 'e' && !digits.isEmpty && digits.all Char.isDigit then
      let size := Int.ofNat (Text.digitsValue digits)
      some (if negative then -size else size)
    else none

/-- The number that digits, a point and an exponent stand for. A digit has to stand before or behind
the point. -/
def readDigits? (negative : Bool) (text : Text) : Option Binary64 :=
  let (whole, rest) := text.span Char.isDigit
  let (fraction, rest) := match rest with
    | '.' :: rest => rest.span Char.isDigit
    | _ => ([], rest)
  if whole.isEmpty && fraction.isEmpty then none
  else (readExponent? rest).map fun exponent =>
    ofDigits negative (whole ++ fraction) (exponent - fraction.length)

/-- The number that a text stands for, blanks around it left out. -/
def read? (text : Text) : Option Binary64 :=
  (Text.dropUnderscores? false (Text.plainNumber text)).bind fun plain =>
    let (negative, body) := Text.readSign plain
    let word := String.ofList (body.map Char.toLower)
    if word == "inf" || word == "infinity" then some (.infinite negative)
    else if word == "nan" then some .undefined
    else readDigits? negative body

/-- The number that bytes stand for. Bytes outside ASCII stand for none. -/
def readBytes? (bytes : List UInt8) : Option Binary64 :=
  (Text.ofAscii? bytes).bind read?

end DumpRestore.Binary64
