/-
This file reads and writes version numbers. A version has a release, which is a sequence of
numbers, and may have an epoch, a pre-release, a post-release, a development number and a local
label. Reading accepts several spellings of each part, writing has one; a number with too many
digits is not read. A server reports its version with a suffix after the first hyphen, which is cut
off before reading.
-/

import DumpRestore.Text.Blank
import DumpRestore.Text.Case
import DumpRestore.Text.Integer

namespace DumpRestore

/-- The stage of a pre-release. -/
inductive PreRelease where
  | alpha
  | beta
  | candidate
deriving Repr, DecidableEq

/-- A part of a local label. -/
inductive LocalPart where
  | number (value : Nat)
  | word (text : Text)
deriving Repr, DecidableEq

/-- A version number. -/
structure Version where
  epoch : Nat := 0
  release : List Nat
  preRelease : Option (PreRelease × Nat) := none
  postRelease : Option Nat := none
  development : Option Nat := none
  label : List LocalPart := []
deriving Repr, DecidableEq

namespace Version

/-! ### Writing -/

/-- The letters of a stage. -/
def stageText : PreRelease → Text
  | .alpha => "a"
  | .beta => "b"
  | .candidate => "rc"

/-- A part of a local label as it is written. -/
def labelText : LocalPart → Text
  | .number value => Text.ofNat value
  | .word text => text

/-- The one way in which a version is written. -/
def toText (version : Version) : Text :=
  let parts : List Text := [
    if version.epoch = 0 then [] else Text.ofNat version.epoch ++ "!",
    Text.join "." (version.release.map Text.ofNat),
    match version.preRelease with
      | some (stage, number) => stageText stage ++ Text.ofNat number
      | none => [],
    match version.postRelease with
      | some number => ".post" ++ Text.ofNat number
      | none => [],
    match version.development with
      | some number => ".dev" ++ Text.ofNat number
      | none => [],
    if version.label.isEmpty then [] else '+' :: Text.join "." (version.label.map labelText)]
  parts.flatten

/-! ### Reading -/

/-- A number at the start of a text. -/
def number? (text : Text) : Option (Nat × Text) :=
  match text.span Char.isDigit with
  | ([], _) => none
  | (digits, rest) => some (Text.digitsValue digits, rest)

/-- The numbers of a release whose current number is `value`, and the text after them. A point
belongs to the release only where a digit follows. -/
def releaseAfter (value : Nat) : Text → List Nat × Text
  | [] => ([value], [])
  | '.' :: digit :: rest =>
    if digit.isDigit then
      let (numbers, after) := releaseAfter (digit.toNat - 0x30) rest
      (value :: numbers, after)
    else ([value], '.' :: digit :: rest)
  | character :: rest =>
    if character.isDigit then releaseAfter (value * 10 + (character.toNat - 0x30)) rest
    else ([value], character :: rest)

/-- The release at the start of a text. -/
def release? : Text → Option (List Nat × Text)
  | digit :: rest => if digit.isDigit then some (releaseAfter (digit.toNat - 0x30) rest) else none
  | [] => none

/-- The text after one separator, if it starts with one. -/
def skipSeparator : Text → Text
  | character :: rest =>
    if character == '-' || character == '_' || character == '.' then rest else character :: rest
  | [] => []

/-- The text after a keyword in lower-case ASCII letters at its start. Only letters of ASCII are
forms of the letters of a keyword. -/
def keyword? (keyword text : Text) : Option Text :=
  if (text.take keyword.length).map Char.toLower == keyword then some (text.drop keyword.length)
  else none

/-- One of the keywords, the first that fits, after an optional separator; then an optional
separator and an optional number, zero where there is none. -/
def labelled? {Label : Type} (keywords : List (Text × Label)) (text : Text) :
    Option ((Label × Nat) × Text) :=
  (keywords.findSome? fun (keyword, label) =>
    (keyword? keyword (skipSeparator text)).map fun rest => (label, rest)).map
    fun (label, rest) =>
      let after := skipSeparator rest
      match number? after with
      | some (value, rest) => ((label, value), rest)
      | none => ((label, 0), after)

/-- The spellings of the stages. -/
def stageKeywords : List (Text × PreRelease) := [
  ("alpha", .alpha), ("a", .alpha), ("beta", .beta), ("b", .beta), ("preview", .candidate),
  ("pre", .candidate), ("c", .candidate), ("rc", .candidate)]

/-- A pre-release at the start of a text, or none and the whole text. -/
def readPreRelease (text : Text) : Option (PreRelease × Nat) × Text :=
  match labelled? stageKeywords text with
  | some (stage, rest) => (some stage, rest)
  | none => (none, text)

/-- A post-release at the start of a text, or none and the whole text. A hyphen and a number
suffice. -/
def readPostRelease (text : Text) : Option Nat × Text :=
  let short : Option (Nat × Text) := match text with
    | '-' :: rest => number? rest
    | _ => none
  match short with
  | some (value, rest) => (some value, rest)
  | none => match labelled? [("post", ()), ("rev", ()), ("r", ())] text with
    | some ((_, value), rest) => (some value, rest)
    | none => (none, text)

/-- A development number at the start of a text, or none and the whole text. -/
def readDevelopment (text : Text) : Option Nat × Text :=
  match labelled? [("dev", ())] text with
  | some ((_, value), rest) => (some value, rest)
  | none => (none, text)

/-- A part of a local label: digits are a number, letters and digits a lower-case word. -/
def readLocalPart? (part : Text) : Option LocalPart :=
  if part.isEmpty || !part.all Char.isAlphanum then none
  else if part.all Char.isDigit then some (.number (Text.digitsValue part))
  else some (.word (Text.lower part))

/-- The pieces of a local label between its separators. -/
def labelPieces (label : Text) : List Text :=
  Text.splitOn '.' (label.map fun character =>
    if character == '-' || character == '_' then '.' else character)

/-- The local label that makes up the rest of a version, none where the rest is no label. -/
def readLabel? : Text → Option (List LocalPart)
  | [] => some []
  | '+' :: label => (labelPieces label).mapM readLocalPart?
  | _ => none

/-- The epoch at the start of a text, zero where there is none. -/
def readEpoch (text : Text) : Nat × Text :=
  match number? text with
  | some (value, '!' :: rest) => (value, rest)
  | _ => (0, text)

/-- The text after an optional leading v. -/
def skipMark : Text → Text
  | character :: rest => if character == 'v' || character == 'V' then rest else character :: rest
  | [] => []

/-- The version that a whole text spells, blanks around it left out. -/
def read? (text : Text) : Option Version :=
  let (epoch, text) := readEpoch (skipMark (Text.trim text))
  (release? text).bind fun (release, text) =>
    let (preRelease, text) := readPreRelease text
    let (postRelease, text) := readPostRelease text
    let (development, text) := readDevelopment text
    (readLabel? text).map fun label =>
      { epoch, release, preRelease, postRelease, development, label }

/-! ### Versions of servers -/

/-- Whether a text holds no newline but perhaps one as its last character. -/
def isLastLine : Text → Bool
  | [] => true
  | ['\n'] => true
  | character :: rest => character != '\n' && isLastLine rest

/-- The text without its suffix: the first hyphen after which no line ends but the last, and what
follows it up to a final newline. -/
def dropSuffix : Text → Text
  | [] => []
  | character :: rest =>
    if character == '-' && isLastLine rest then
      if rest.getLast? == some '\n' then ['\n'] else []
    else character :: dropSuffix rest

/-- Why a text is no version: it does not have the form of one, or a number in it has too many
digits. -/
inductive Flaw where
  | malformed (text : Text)
  | tooLong (digits : Nat)
deriving Repr, DecidableEq

/-- The flaw in words. -/
def Flaw.message : Flaw → Text
  | .malformed text => "Invalid version: " ++ Text.quoted text
  | .tooLong digits => Text.digitLimitMessage digits

/-- The maximal runs of digits in a text. -/
def digitRuns (text : Text) : List Text :=
  (Text.splitWhere (fun character => !character.isDigit) text).filter fun run => !run.isEmpty

/-- The digits of the numbers in the text of a version, in order. In a local label, only a part of
digits alone is a number. -/
def numbers (text : Text) : List Text :=
  match Text.splitFirst? "+" text with
  | some (before, label) =>
    digitRuns before ++ (labelPieces (Text.trim label)).filter fun part => part.all Char.isDigit
  | none => digitRuns text

/-- The version that a server reports, or why there is none. -/
def ofServer (reported : Text) : Except Flaw Version :=
  let text := dropSuffix reported
  match read? text with
  | none => .error (.malformed text)
  | some version =>
    match (numbers text).find? fun digits => Text.digitLimit < digits.length with
    | some digits => .error (.tooLong digits.length)
    | none => .ok version

/-- Whether a reported version belongs to MariaDB. -/
def isMariaDb (reported : Text) : Bool :=
  Text.occurs "-mariadb" (Text.lower reported)

end Version

end DumpRestore
