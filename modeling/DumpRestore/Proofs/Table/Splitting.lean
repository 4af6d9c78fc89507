/-
This file proves that cutting a table body undoes joining its parts with commas. A part is a row of
characters, quoted literals and parenthesised groups, in any order and nested to any depth; only the
commas of a part itself, outside literals and groups, would be taken for the ones it is joined with.

Two literals in the same quotes may touch. The reader then takes the quote that ends the first and
the quote that starts the second for one quote written twice. This changes nothing: a quote at which
it stays in the literal leads to the same place as one that ends it and one that opens it again.
-/

import DumpRestore.Proofs.Table.Description

namespace DumpRestore.TableBody

open Nesting

/-! ### Parts -/

/-- A row of characters, literals and groups. Commas are among the characters in a group only. -/
inductive Passage : (inGroup : Bool) → Text → Prop
  | nil {inGroup : Bool} : Passage inGroup []
  | character {inGroup : Bool} {character : Char} {rest : Text} (plain : isQuote character = false)
    (notOpen : character ≠ '(') (notClose : character ≠ ')')
    (comma : character = ',' → inGroup = true) (further : Passage inGroup rest) :
    Passage inGroup (character :: rest)
  | literal {inGroup : Bool} {quote : Char} {inside rest : Text} (opens : isQuote quote = true)
    (enclosed : Enclosed quote inside) (further : Passage inGroup rest) :
    Passage inGroup (quote :: (inside ++ quote :: rest))
  | group {inGroup : Bool} {inside rest : Text} (inner : Passage true inside)
    (further : Passage inGroup rest) : Passage inGroup ('(' :: (inside ++ ')' :: rest))

/-! ### Comments in parts -/

/-- No comment starts within a literal. -/
theorem Enclosed.opensComment_append {quote : Char} {inside : Text}
    (enclosed : Enclosed quote inside) (opens : isQuote quote = true) (rest : Text) :
    opensComment (some quote) (inside ++ quote :: rest) = opensComment none rest := by
  induction enclosed with
  | nil => exact opensComment_endQuote quote rest opens
  | escape escaped _ inductionHypothesis =>
    rw [List.cons_append, List.cons_append, opensComment_escape _ _ _ _ escaped,
      inductionHypothesis]
  | doubled _ inductionHypothesis =>
    rw [List.cons_append, List.cons_append, opensComment_endQuote _ _ opens,
      opensComment_quote _ _ opens, inductionHypothesis]
  | plain unescaped other _ inductionHypothesis =>
    rw [List.cons_append, opensComment_quoted _ _ _ unescaped other, inductionHypothesis]

/-- Behind a part and a mark that no comment opener holds, comments start where they start on their
own. -/
theorem Passage.opensComment_append {inGroup : Bool} {text : Text} (passage : Passage inGroup text)
    (mark : Char) (rest : Text) (other : mark ∉ ['#', '/', '*', '-', ' '])
    (plainMark : isQuote mark = false) :
    opensComment none (text ++ mark :: rest) =
      (opensComment none text || opensComment none rest) := by
  induction passage generalizing mark rest with
  | nil =>
    have starts : startsComment (mark :: rest) = false := startsComment_append [] rest mark other
    rw [List.nil_append, opensComment_plain _ _ plainMark, starts]
    rfl
  | @character _ character text plain _ _ _ _ inductionHypothesis =>
    have starts := startsComment_append (character :: text) rest mark other
    rw [List.cons_append] at starts
    rw [List.cons_append, opensComment_plain _ _ plain, starts, opensComment_plain _ _ plain,
      inductionHypothesis mark rest other plainMark, Bool.or_assoc]
  | literal opens enclosed _ inductionHypothesis =>
    rw [List.cons_append, List.append_assoc, List.cons_append, opensComment_quote _ _ opens,
      enclosed.opensComment_append opens, opensComment_quote _ _ opens,
      enclosed.opensComment_append opens, inductionHypothesis mark rest other plainMark]
  | @group _ inside _ _ _ innerHypothesis inductionHypothesis =>
    have open_ (after : Text) : opensComment none ('(' :: after) = opensComment none after :=
      opensComment_plain '(' after rfl
    rw [List.cons_append, List.append_assoc, List.cons_append, open_, open_,
      innerHypothesis ')' _ (by decide) rfl, innerHypothesis ')' _ (by decide) rfl,
      inductionHypothesis mark rest other plainMark, Bool.or_assoc]

/-! ### The way of the reader over a part -/

/-- A literal is passed over from behind its first quote, whatever follows it. -/
theorem Enclosed.comesOut {quote : Char} {inside : Text} (enclosed : Enclosed quote inside)
    (opens : isQuote quote = true) (position : Nat) (depth : Int) (current : Progress)
    (rest : Text) :
    ComesOut (.quoted quote) position depth current (inside ++ [quote]) depth rest := by
  induction enclosed generalizing position current with
  | nil => exact fragmentsFrom_endQuote position depth (some current) quote rest opens
  | escape escaped _ inductionHypothesis =>
    exact .behind [_, _] _ (fragmentsFrom_escape _ _ _ _ _ _ _ escaped) (inductionHypothesis _ _)
  | doubled _ inductionHypothesis =>
    refine .behind [quote, quote] _ (fragmentsFrom_doubled _ _ _ _ _ ?_) (inductionHypothesis _ _)
    exact escapes_self_of_isQuote quote opens
  | plain unescaped other _ inductionHypothesis =>
    exact .behind [_] _ (fragmentsFrom_quoted _ _ _ _ _ _ unescaped other)
      (inductionHypothesis _ _)

/-- A part without comments is passed over in front of a mark that no comment opener holds. Its own
commas are passed over where it stands in a group. -/
theorem Passage.comesOut {inGroup : Bool} {text : Text} (passage : Passage inGroup text)
    (quiet : opensComment none text = false) (position : Nat) (depth : Int) (current : Progress)
    (deep : 1 ≤ depth) (inner : inGroup = true → depth ≠ 1) (mark : Char) (rest : Text)
    (other : mark ∉ ['#', '/', '*', '-', ' ']) :
    ComesOut .plain position depth current text depth (mark :: rest) := by
  induction passage generalizing position depth current mark rest with
  | nil => rfl
  | @character inGroup character text plain notOpen notClose comma _ inductionHypothesis =>
    rw [opensComment_plain _ _ plain, Bool.or_eq_false_iff] at quiet
    have further := inductionHypothesis quiet.2 (position + 1) depth (current.grown [character])
      deep inner mark rest other
    refine .behind [character] text ?_ further
    by_cases isComma : character = ','
    · subst isComma
      exact fragmentsFrom_comma _ _ _ _ (inner (comma rfl))
    · have starts := startsComment_append (character :: text) rest mark other
      exact fragmentsFrom_plain _ _ _ _ _ plain notOpen notClose isComma (starts.trans quiet.1)
  | @literal inGroup quote inside text opens enclosed _ inductionHypothesis =>
    rw [opensComment_quote _ _ opens, enclosed.opensComment_append opens] at quiet
    have further := inductionHypothesis quiet (position + 1 + (inside ++ [quote]).length) depth
      ((current.grown [quote]).grown (inside ++ [quote])) deep inner mark rest other
    have overLiteral := enclosed.comesOut opens (position + 1) depth (current.grown [quote])
      (text ++ mark :: rest)
    rw [List.append_cons]
    exact .behind [quote] _ (fragmentsFrom_quote _ _ _ _ _ opens)
      (.behind (inside ++ [quote]) text overLiteral further)
  | @group inGroup inside text innerPassage _ innerHypothesis inductionHypothesis =>
    have quietInside : opensComment none (inside ++ ')' :: text) = false := by
      rw [opensComment_plain '(' _ rfl, Bool.or_eq_false_iff] at quiet
      exact quiet.2
    rw [innerPassage.opensComment_append ')' text (by decide) rfl, Bool.or_eq_false_iff]
      at quietInside
    have overInside := innerHypothesis quietInside.1 (position + 1) (depth + 1)
      (current.grown ['(']) (by omega) (fun _ => by omega) ')' (text ++ mark :: rest) (by decide)
    have closes := fragmentsFrom_close (position + 1 + inside.length) (depth + 1)
      (text ++ mark :: rest) ((current.grown ['(']).grown inside) (by omega)
    rw [Int.add_sub_cancel] at closes
    have further := inductionHypothesis quietInside.2 (position + 1 + inside.length + 1) depth
      (((current.grown ['(']).grown inside).grown [')']) deep inner mark rest other
    exact .behind ['('] _ (fragmentsFrom_open _ _ _ _)
      (.behind inside (')' :: text) overInside (.behind [')'] text closes further))

/-- A part without comments is a fragment of its own where a comma or the closing parenthesis
follows. -/
theorem Passage.isFragment {text : Text} (passage : Passage false text)
    (quiet : opensComment none text = false) : IsFragment text := by
  intro position mark rest isEnd
  refine passage.comesOut quiet position 1 _ (by decide) (fun impossible => by cases impossible)
    mark rest ?_
  rcases isEnd with rfl | rfl <;> decide

/-! ### Joined parts -/

/-- A statement whose body consists of parts without comments, joined with commas, is cut into
exactly these parts, in order, each with the position at which it stands. The name of the table and
what follows the body may be anything. -/
theorem split_join (table suffix : Text) (parts : List Text) (nonempty : parts ≠ [])
    (passages : ∀ part ∈ parts, Passage false part)
    (quiet : ∀ part ∈ parts, opensComment none part = false) :
    split (prologue table ++ Text.join "," parts ++ ')' :: suffix) =
      fragmentsOf (prologue table).length parts := by
  rw [split, List.append_assoc, fragmentsFrom_prologue]
  exact fragmentsFrom_join _ parts suffix nonempty fun part member =>
    (passages part member).isFragment (quiet part member)

/-- Parts with an escaped quote in a group, a quoted parenthesis in a group of a group, two literals
that touch, and nothing at all. -/
def nestedParts : List Text :=
  ["e('\\',')", "(1,(`)`,2))'a''b'", []]

theorem passage_of_mem_nestedParts : ∀ part ∈ nestedParts, Passage false part := by
  have escaped : Passage false "e('\\',')" :=
    .character rfl (by decide) (by decide) (by decide) <| @Passage.group _ "'\\','" []
      (@Passage.literal _ '\'' "\\'," [] rfl (.escape rfl (.plain rfl (by decide) .nil)) .nil) .nil
  have touching : Passage false "'a''b'" :=
    @Passage.literal _ '\'' "a" "'b'" rfl (.plain rfl (by decide) .nil)
      (@Passage.literal _ '\'' "b" [] rfl (.plain rfl (by decide) .nil) .nil)
  have nested : Passage true "(`)`,2)" :=
    @Passage.group _ "`)`,2" []
      (@Passage.literal _ '\x60' ")" ",2" rfl (.plain rfl (by decide) .nil)
        (.character rfl (by decide) (by decide) (fun _ => rfl)
          (.character rfl (by decide) (by decide) (by decide) .nil))) .nil
  intro part member
  simp only [nestedParts, List.mem_cons, List.not_mem_nil, or_false] at member
  rcases member with rfl | rfl | rfl
  · exact escaped
  · exact @Passage.group _ "1,(`)`,2)" "'a''b'"
      (.character rfl (by decide) (by decide) (by decide)
        (.character rfl (by decide) (by decide) (fun _ => rfl) nested)) touching
  · exact .nil

theorem split_join_nested :
    nestedParts ≠ [] ∧ (∀ part ∈ nestedParts, Passage false part) ∧
      (∀ part ∈ nestedParts, opensComment none part = false) ∧
      split (prologue "t`" ++ Text.join "," nestedParts ++ ')' :: " ENGINE='x") =
        [⟨"e('\\',')", 20⟩, ⟨"(1,(`)`,2))'a''b'", 29⟩, ⟨[], 47⟩] := by
  have nonempty : nestedParts ≠ [] := List.cons_ne_nil _ _
  have quiet : ∀ part ∈ nestedParts, opensComment none part = false := by decide +kernel
  refine ⟨nonempty, passage_of_mem_nestedParts, quiet, ?_⟩
  rw [split_join "t`" " ENGINE='x" nestedParts nonempty passage_of_mem_nestedParts quiet]
  decide +kernel

end DumpRestore.TableBody
