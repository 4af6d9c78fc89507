/-
This file maps texts to upper and to lower case by the full case mappings of Unicode: the sharp s
becomes two letters, ligatures come apart, and a capital sigma at the end of a word becomes the
final one.
-/

import DumpRestore.Text.CaseRanges
import DumpRestore.Text.SigmaRanges
import DumpRestore.Text.WordChar

namespace DumpRestore.Text

/-- The code point a run maps a code point to, where the run holds it. -/
def CaseRun.apply? (run : CaseRun) (code : Nat) : Option Nat :=
  if run.first ≤ code && code ≤ run.last && (code - run.first) % run.step == 0 then
    some (code + run.shift).toNat
  else none

/-- The upper case of one character. -/
def upperChar (character : Char) : Text :=
  if character.toNat < 128 then [character.toUpper]
  else match upperSequences.find? fun entry => entry.1 == character.toNat with
    | some (_, codes) => codes.map Char.ofNat
    | none => match upperRuns.findSome? fun run => run.apply? character.toNat with
      | some code => [Char.ofNat code]
      | none => [character]

/-- The lower case of one character, where it does not depend on its neighbours. -/
def lowerChar (character : Char) : Text :=
  if character.toNat < 128 then [character.toLower]
  else if character == 'İ' then ['i', Char.ofNat 0x307]
  else match lowerRuns.findSome? fun run => run.apply? character.toNat with
    | some code => [Char.ofNat code]
    | none => [character]

/-- The upper case of a text. -/
def upper (text : Text) : Text :=
  text.flatMap upperChar

/-- Whether a character has a case. -/
def isCased (character : Char) : Bool :=
  if character.toNat < 128 then character.isAlpha
  else inRanges casedRanges character.toNat

/-- Whether a character is passed over when the neighbours of a sigma are looked for: apostrophes,
points, accents, combining marks and modifiers. -/
def isPassedOver (character : Char) : Bool :=
  if character.toNat < 128 then [0x27, 0x2E, 0x3A, 0x5E, 0x60].elem character.toNat
  else inRanges passedOverRanges character.toNat

/-- Whether a character with a case comes first, those that are passed over left out. -/
def startsCased (text : Text) : Bool :=
  match text.dropWhile isPassedOver with
  | character :: _ => isCased character
  | [] => false

/-- The lower case of a text whose reversed `before` has been read already. -/
def lowerAfter (before : Text) : Text → Text
  | [] => []
  | character :: rest =>
    let mapped := if character == 'Σ' && startsCased before && !startsCased rest then ['ς']
      else lowerChar character
    mapped ++ lowerAfter (character :: before) rest

/-- The lower case of a text. -/
def lower (text : Text) : Text :=
  lowerAfter [] text

end DumpRestore.Text
