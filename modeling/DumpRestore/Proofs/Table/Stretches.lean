/-
This file measures quoted stretches. Two readers of SQL look for the quote that ends a stretch, the
one that cuts a table body and the one that looks for a closing parenthesis, and each has a loop of
its own for it. The length of a stretch is what both loops come to: behind that many characters
either reader goes on outside quotes. A literal whose inside holds its quote escaped or written
twice, such as a name in backticks, ends at its last character, as long as the same quote does not
follow.
-/

import DumpRestore.Proofs.Identifier
import DumpRestore.Proofs.Table.Steps

namespace DumpRestore

/-! ### The length of a stretch -/

namespace Nesting

/-- How many characters of a text belong to the quoted stretch in which it starts, the quote that
ends the stretch included. -/
def stretchLength? (quote : Char) : Text → Option Nat
  | [] => none
  | character :: rest =>
    if escapes quote character then
      match rest with
      | [] => none
      | _ :: after => (stretchLength? quote after).map (· + 2)
    else if character = quote then
      match rest with
      | [] => some 1
      | next :: after => if next = quote then (stretchLength? quote after).map (· + 2) else some 1
    else (stretchLength? quote rest).map (· + 1)

section Steps

variable (quote character next : Char) (rest : Text)

theorem stretchLength?_escape (escaped : escapes quote character = true) :
    stretchLength? quote (character :: next :: rest) =
      (stretchLength? quote rest).map (· + 2) := by
  rw [stretchLength?.eq_def]
  exact if_pos escaped

theorem stretchLength?_doubled (unescaped : escapes quote quote = false) :
    stretchLength? quote (quote :: quote :: rest) = (stretchLength? quote rest).map (· + 2) := by
  rw [stretchLength?.eq_def]
  exact (if_neg (Bool.eq_false_iff.mp unescaped)).trans ((if_pos rfl).trans (if_pos rfl))

theorem stretchLength?_ends (unescaped : escapes quote quote = false)
    (ends : rest.head? ≠ some quote) : stretchLength? quote (quote :: rest) = some 1 := by
  rw [stretchLength?.eq_def]
  refine (if_neg (Bool.eq_false_iff.mp unescaped)).trans ((if_pos rfl).trans ?_)
  cases rest with
  | nil => rfl
  | cons next rest => exact if_neg fun same => ends (congrArg some same)

theorem stretchLength?_inside (unescaped : escapes quote character = false)
    (other : character ≠ quote) :
    stretchLength? quote (character :: rest) = (stretchLength? quote rest).map (· + 1) := by
  rw [stretchLength?.eq_def]
  exact (if_neg (Bool.eq_false_iff.mp unescaped)).trans (if_neg other)

end Steps

/-- The reader that looks for a closing parenthesis is outside quotes behind the stretch. -/
theorem closingLength?_stretch (depth : Nat) (quote : Char) (text : Text) (length : Nat)
    (found : stretchLength? quote text = some length) :
    closingLength? depth (some quote) text =
      (closingLength? depth none (text.drop length)).map (· + length) := by
  fun_induction stretchLength? quote text generalizing length with
  | case1 | case2 => cases found
  | case3 character escaped next after inductionHypothesis =>
    obtain ⟨inner, foundInner, rfl⟩ := Option.map_eq_some_iff.mp found
    rw [closingLength?_escape _ _ _ _ _ escaped, inductionHypothesis inner foundInner,
      Option.map_map]
    rfl
  | case4 unescaped =>
    cases found
    rw [closingLength?.eq_def]
    exact (if_neg unescaped).trans (if_pos rfl)
  | case5 after unescaped inductionHypothesis =>
    obtain ⟨inner, foundInner, rfl⟩ := Option.map_eq_some_iff.mp found
    rw [closingLength?_doubled _ _ _ (Bool.eq_false_iff.mpr unescaped),
      inductionHypothesis inner foundInner, Option.map_map]
    rfl
  | case6 next after other unescaped =>
    cases found
    exact closingLength?_unquote _ _ _ _ (Bool.eq_false_iff.mpr unescaped) other
  | case7 character rest unescaped other inductionHypothesis =>
    obtain ⟨inner, foundInner, rfl⟩ := Option.map_eq_some_iff.mp found
    rw [closingLength?_quoted _ _ _ _ (Bool.eq_false_iff.mpr unescaped) other,
      inductionHypothesis inner foundInner, Option.map_map]
    rfl

end Nesting

namespace TableBody

open Nesting

/-- The reader of a table body is outside quotes behind the stretch. -/
theorem fragmentsFrom_stretch (position : Nat) (depth : Int) (progress : Option Progress)
    (quote : Char) (text : Text) (length : Nat)
    (found : stretchLength? quote text = some length) :
    fragmentsFrom (.quoted quote) position depth progress text =
      fragmentsFrom .plain (position + length) depth (taken (text.take length) progress)
        (text.drop length) := by
  fun_induction stretchLength? quote text generalizing length position progress with
  | case1 | case2 => cases found
  | case3 character escaped next after inductionHypothesis =>
    obtain ⟨inner, foundInner, rfl⟩ := Option.map_eq_some_iff.mp found
    rw [fragmentsFrom_escape _ _ _ _ _ _ _ escaped, inductionHypothesis _ _ inner foundInner,
      ← taken_append, Nat.add_assoc, Nat.add_comm 2]
    rfl
  | case4 unescaped =>
    cases found
    exact fragmentsFrom_unquote _ _ _ _ _ (Bool.eq_false_iff.mpr unescaped) nofun
  | case5 after unescaped inductionHypothesis =>
    obtain ⟨inner, foundInner, rfl⟩ := Option.map_eq_some_iff.mp found
    rw [fragmentsFrom_doubled _ _ _ _ _ (Bool.eq_false_iff.mpr unescaped),
      inductionHypothesis _ _ inner foundInner, ← taken_append, Nat.add_assoc, Nat.add_comm 2]
    rfl
  | case6 next after other unescaped =>
    cases found
    exact fragmentsFrom_unquote _ _ _ _ _ (Bool.eq_false_iff.mpr unescaped)
      fun same => other (Option.some.inj same)
  | case7 character rest unescaped other inductionHypothesis =>
    obtain ⟨inner, foundInner, rfl⟩ := Option.map_eq_some_iff.mp found
    rw [fragmentsFrom_quoted _ _ _ _ _ _ (Bool.eq_false_iff.mpr unescaped) other,
      inductionHypothesis _ _ inner foundInner, ← taken_append, Nat.add_assoc, Nat.add_comm 1]
    rfl

/-! ### What may stand between quotes -/

/-- What may stand between the quotes of a literal: escaped characters, the quote written twice, and
characters that are neither the quote nor an escape. -/
inductive Enclosed (quote : Char) : Text → Prop
  | nil : Enclosed quote []
  | escape {character next : Char} {rest : Text} (escaped : escapes quote character = true)
    (further : Enclosed quote rest) : Enclosed quote (character :: next :: rest)
  | doubled {rest : Text} (further : Enclosed quote rest) : Enclosed quote (quote :: quote :: rest)
  | plain {character : Char} {rest : Text} (unescaped : escapes quote character = false)
    (other : character ≠ quote) (further : Enclosed quote rest) : Enclosed quote (character :: rest)

/-- A text in which no character escapes the next one may stand between quotes if every quote in it
is written twice. -/
theorem enclosed_double (quote : Char) (content : Text)
    (unescaped : ∀ character ∈ content, escapes quote character = false) :
    Enclosed quote (Text.double quote content) := by
  induction content with
  | nil => exact .nil
  | cons character content inductionHypothesis =>
    have further := inductionHypothesis fun other member =>
      unescaped other (List.mem_cons_of_mem _ member)
    by_cases same : character = quote
    · subst same
      rw [Text.double_cons_self]
      exact .doubled further
    · rw [Text.double_cons_of_ne _ _ _ same]
      exact .plain (unescaped character List.mem_cons_self) same further

/-- The stretch that a literal opens ends at the last character of the literal, unless the same
quote follows. -/
theorem Enclosed.stretchLength? {quote : Char} {inside : Text} (enclosed : Enclosed quote inside)
    (opens : isQuote quote = true) (rest : Text) (ends : rest.head? ≠ some quote) :
    stretchLength? quote (inside ++ quote :: rest) = some (inside.length + 1) := by
  have unescaped := escapes_self_of_isQuote quote opens
  induction enclosed with
  | nil => exact stretchLength?_ends quote rest unescaped ends
  | escape escaped _ inductionHypothesis =>
    rw [List.cons_append, List.cons_append, stretchLength?_escape _ _ _ _ escaped,
      inductionHypothesis]
    rfl
  | doubled _ inductionHypothesis =>
    rw [List.cons_append, List.cons_append, stretchLength?_doubled _ _ unescaped,
      inductionHypothesis]
    rfl
  | plain unescaped other _ inductionHypothesis =>
    rw [List.cons_append, stretchLength?_inside _ _ _ unescaped other, inductionHypothesis]
    rfl

/-! ### Literals -/

/-- A text is one literal in front of another text: readers that enter it at its first character,
which is a quote, are outside quotes again behind its last character, and no earlier. -/
structure IsLiteralBefore (literal rest : Text) : Prop where
  /-- The stretch that the first character opens ends with the literal. -/
  stretch : ∃ quote inside, literal = quote :: inside ∧ isQuote quote = true ∧
    Nesting.stretchLength? quote (inside ++ rest) = some inside.length
  /-- The reader of a table body goes on behind the literal, which it takes as it stands. -/
  body : ∀ position depth progress,
    fragmentsFrom .plain position depth progress (literal ++ rest) =
      fragmentsFrom .plain (position + literal.length) depth (taken literal progress) rest
  /-- The reader that looks for a closing parenthesis finds it behind the literal. -/
  closing : ∀ depth, closingLength? depth none (literal ++ rest) =
    (closingLength? depth none rest).map (· + literal.length)

/-- It is enough to measure the stretch, since either reader leaves it behind its length. -/
theorem isLiteralBefore_of_stretch {quote : Char} {inside rest : Text}
    (opens : isQuote quote = true)
    (found : Nesting.stretchLength? quote (inside ++ rest) = some inside.length) :
    IsLiteralBefore (quote :: inside) rest where
  stretch := ⟨quote, inside, rfl, opens, found⟩
  body := by
    intro position depth progress
    rw [List.cons_append, fragmentsFrom_quote _ _ _ _ _ opens,
      fragmentsFrom_stretch _ _ _ _ _ _ found, List.take_left, List.drop_left, ← taken_cons,
      List.length_cons, Nat.add_assoc, Nat.add_comm 1]
  closing := by
    intro depth
    rw [List.cons_append, closingLength?_quote _ _ _ opens, closingLength?_stretch _ _ _ _ found,
      List.drop_left, Option.map_map]
    rfl

/-- Quotes around an inside in which they are escaped or written twice make a literal. -/
theorem Enclosed.isLiteralBefore {quote : Char} {inside : Text} (enclosed : Enclosed quote inside)
    (opens : isQuote quote = true) (rest : Text) (ends : rest.head? ≠ some quote) :
    IsLiteralBefore (quote :: (inside ++ [quote])) rest := by
  refine isLiteralBefore_of_stretch opens ?_
  rw [List.append_assoc, List.singleton_append, enclosed.stretchLength? opens rest ends,
    List.length_append]
  rfl

/-- No name ends a literal in backticks, since nothing escapes a character there. -/
theorem enclosed_doubleBacktick (name : Text) : Enclosed '\x60' (Text.double '\x60' name) :=
  enclosed_double '\x60' name fun _ _ => Bool.and_false _

theorem isLiteralBefore_backquote (name rest : Text) (ends : rest.head? ≠ some '\x60') :
    IsLiteralBefore (Identifier.backquote name) rest :=
  (enclosed_doubleBacktick name).isLiteralBefore rfl rest ends

end TableBody

end DumpRestore
