/-
This file fixes what the library calls a text: the list of its characters, so that every position
and every length counts characters and nothing else. It holds the searches, cuts and replacements
that the other files share, each by recursion on the text.
-/

namespace DumpRestore

/-- A text is the list of its characters. Positions and lengths count characters. -/
abbrev Text := List Char

/-- A string literal stands for the text of its characters. -/
instance : Coe String Text := ⟨String.toList⟩

namespace Text

/-! ### Searching -/

/-- The text before the first occurrence of `needle` and the text after it. The empty needle
occurs at the start. -/
def splitFirst? (needle : Text) : Text → Option (Text × Text)
  | [] => (needle.isPrefixOf? []).map fun after => ([], after)
  | character :: rest =>
    match needle.isPrefixOf? (character :: rest) with
    | some after => some ([], after)
    | none => (splitFirst? needle rest).map fun (before, after) => (character :: before, after)

/-- The text before the last occurrence of `needle` and the text after it. -/
def splitLast? (needle : Text) : Text → Option (Text × Text)
  | [] => (needle.isPrefixOf? []).map fun after => ([], after)
  | character :: rest =>
    match splitLast? needle rest with
    | some (before, after) => some (character :: before, after)
    | none => (needle.isPrefixOf? (character :: rest)).map fun after => ([], after)

/-- Whether `needle` stands anywhere in the text. -/
def occurs (needle text : Text) : Bool :=
  (splitFirst? needle text).isSome

/-! ### Replacing -/

/-- Puts `replacement` in the place of the first occurrence of `needle`. The empty needle is
never replaced. -/
def replaceFirst (needle replacement haystack : Text) : Text :=
  if needle.isEmpty then haystack
  else match splitFirst? needle haystack with
    | some (before, after) => before ++ replacement ++ after
    | none => haystack

/-- Puts `replacement` in the place of the last occurrence of `needle`. The empty needle is never
replaced. -/
def replaceLast (needle replacement haystack : Text) : Text :=
  if needle.isEmpty then haystack
  else match splitLast? needle haystack with
    | some (before, after) => before ++ replacement ++ after
    | none => haystack

/-- The text with `replacement` in the place of every occurrence of `needle`, the first `skipped`
characters, which belong to an occurrence already replaced, left out. -/
def replaceAfter (needle replacement : Text) : (skipped : Nat) → Text → Text
  | _, [] => []
  | skipped + 1, _ :: rest => replaceAfter needle replacement skipped rest
  | 0, character :: rest =>
    if needle.isPrefixOf (character :: rest) then
      replacement ++ replaceAfter needle replacement (needle.length - 1) rest
    else character :: replaceAfter needle replacement 0 rest

/-- Puts `replacement` in the place of every occurrence of `needle`, from left to right. The empty
needle is never replaced. -/
def replaceAll (needle replacement haystack : Text) : Text :=
  if needle.isEmpty then haystack else replaceAfter needle replacement 0 haystack

/-- Puts `replacement` in the place of every occurrence of one character. -/
def replaceChar (old : Char) (replacement text : Text) : Text :=
  text.flatMap fun character => if character = old then replacement else [character]

/-- Writes a mark twice wherever it occurs. -/
def double (mark : Char) (text : Text) : Text :=
  replaceChar mark [mark, mark] text

/-- Reads two marks in a row as one, from left to right; a mark that stands alone stays. -/
def undouble (mark : Char) : Text → Text
  | first :: second :: rest =>
    if first = mark ∧ second = mark then mark :: undouble mark rest
    else first :: undouble mark (second :: rest)
  | text => text

/-! ### Cutting and joining -/

/-- The pieces between the separators, one more than there are separators. -/
def splitWhere (isSeparator : Char → Bool) : Text → List Text
  | [] => [[]]
  | character :: rest =>
    if isSeparator character then [] :: splitWhere isSeparator rest
    else match splitWhere isSeparator rest with
      | [] => [[character]]
      | piece :: pieces => (character :: piece) :: pieces

/-- The pieces between the occurrences of one character. -/
def splitOn (separator : Char) (text : Text) : List Text :=
  splitWhere (· = separator) text

/-- The texts one after the other with `separator` between neighbours. -/
def join (separator : Text) : List Text → Text
  | [] => []
  | [text] => text
  | text :: second :: texts => text ++ separator ++ join separator (second :: texts)

/-- The text without the characters at either end that are to be left out. -/
def trimWhere (isOutside : Char → Bool) (text : Text) : Text :=
  ((text.dropWhile isOutside).reverse.dropWhile isOutside).reverse

/-- The first `bound` characters. A negative bound leaves out that many characters at the end. -/
def cut (bound : Int) (text : Text) : Text :=
  if 0 ≤ bound then text.take bound.toNat else text.take (text.length - (-bound).toNat)

/-- The text followed by blanks up to a width. -/
def padRight (width : Nat) (text : Text) : Text :=
  text ++ List.replicate (width - text.length) ' '

/-- The text preceded by blanks up to a width. -/
def padLeft (width : Nat) (text : Text) : Text :=
  List.replicate (width - text.length) ' ' ++ text

/-- The decimal digits of a number. -/
def ofNat (number : Nat) : Text :=
  Nat.toDigits 10 number

/-- The decimal digits of a number, with a minus sign before a negative one. -/
def ofInt : Int → Text
  | .ofNat number => ofNat number
  | .negSucc number => '-' :: ofNat (number + 1)

/-- Code-point order of texts: the first difference decides, and a text stands before its
extensions. -/
def order : Text → Text → Ordering
  | [], [] => .eq
  | [], _ :: _ => .lt
  | _ :: _, [] => .gt
  | first :: firsts, second :: seconds =>
    if first.val < second.val then .lt
    else if second.val < first.val then .gt
    else order firsts seconds

end Text

end DumpRestore
