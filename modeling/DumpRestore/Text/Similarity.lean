/-
This file finds the names that a mistyped name may stand for. Two texts are as similar as the share
of their characters that lies in matching blocks: the longest block that both have in common, and
then the matching blocks of what stands before it and of what stands behind it.
-/

import DumpRestore.Text.Basic

namespace DumpRestore.Text

/-! ### Matching blocks -/

/-- The number of characters that two texts have in common at their starts. -/
def commonLength : Text → Text → Nat
  | first :: firsts, second :: seconds =>
    if first = second then commonLength firsts seconds + 1 else 0
  | _, _ => 0

/-- A block that two texts have in common: where it starts in each of them, and its length. -/
structure Block where
  firstStart : Nat
  secondStart : Nat
  length : Nat
deriving Repr, DecidableEq

/-- The longest block that two texts have in common. Of several, it is the one that starts first in
the first text, and then the one that starts first in the second text. -/
def longestBlock (first second : Text) : Block :=
  let starts := (List.range first.length).flatMap fun firstStart =>
    (List.range second.length).map fun secondStart => (firstStart, secondStart)
  starts.foldl (fun best (firstStart, secondStart) =>
    let length := commonLength (first.drop firstStart) (second.drop secondStart)
    if best.length < length then { firstStart, secondStart, length } else best) ⟨0, 0, 0⟩

/-- Whether a block has characters and lies within a text. -/
def Block.isWithin (block : Block) (text : Text) : Prop :=
  0 < block.length ∧ block.firstStart + block.length ≤ text.length

instance (block : Block) (text : Text) : Decidable (block.isWithin text) :=
  inferInstanceAs (Decidable (_ ∧ _))

/-- The number of characters in the matching blocks of two texts. -/
def matchedLength (first second : Text) : Nat :=
  if (longestBlock first second).isWithin first then
    let block := longestBlock first second
    matchedLength (first.take block.firstStart) (second.take block.secondStart) + block.length +
      matchedLength (first.drop (block.firstStart + block.length))
        (second.drop (block.secondStart + block.length))
  else 0
termination_by first.length
decreasing_by
  all_goals
    rename_i isWithin
    simp only [Block.isWithin] at isWithin
    simp only [List.length_take, List.length_drop]
    omega

/-! ### Similar names -/

/-- How similar two texts are, as a fraction: the characters in matching blocks, and the characters
of the longest text that is possible. -/
structure Similarity where
  matching : Nat
  total : Nat
deriving Repr, DecidableEq

namespace Similarity

/-- The similarity of a name and a text. -/
def ofTexts (name text : Text) : Similarity :=
  { matching := 2 * matchedLength name text, total := name.length + text.length }

/-- Whether three fifths of the characters match. -/
def isClose (similarity : Similarity) : Bool :=
  3 * similarity.total ≤ 5 * similarity.matching

/-- Whether a similarity is greater than another one. -/
def exceeds (first second : Similarity) : Bool :=
  second.matching * first.total < first.matching * second.total

end Similarity

/-- The most names that are suggested. -/
def suggestionLimit : Nat := 3

/-- Whether a name with its similarity is suggested before another one: it is more similar, or as
similar and later in the order of texts. -/
def isBetter (first second : Similarity × Text) : Bool :=
  first.1.exceeds second.1 ||
    (!second.1.exceeds first.1 && order first.2 second.2 != .lt)

/-- The names that are most similar to a text, those that are not close left out, in the order of
texts. -/
def similarNames (names : List Text) (text : Text) : List Text :=
  let close := (names.map fun name => (Similarity.ofTexts name text, name)).filter fun entry =>
    entry.1.isClose
  let best := ((close.mergeSort isBetter).take suggestionLimit).map Prod.snd
  best.mergeSort fun first second => order first second != .gt

end DumpRestore.Text
