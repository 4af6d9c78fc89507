/-
This file proves that an escaped text is a pattern that matches this text and no other. Escaping
replaces three characters one after the other, the backslash first, so that no later replacement
meets a backslash that an earlier one has put there: together they replace each character by itself,
and a text is escaped character by character. What they put in the place of a character matches
exactly that character in front of whatever the rest of the pattern matches.
-/

import DumpRestore.Like

namespace DumpRestore.Like

/-! ### What patterns match -/

/-- The characters that stand for something else than themselves in a pattern. -/
def marks : List Char := ['\\', '_', '%']

/-- A pattern of a LIKE comparison matches a text. A backslash and a character stand for that
character, an underscore for any one character, and a percent sign for any run of characters. Every
other character stands for itself, and so does a backslash with nothing behind it. -/
inductive Matches : (pattern text : Text) → Prop
  | nil : Matches [] []
  | escaped {character : Char} {pattern text : Text} (further : Matches pattern text) :
      Matches ('\\' :: character :: pattern) (character :: text)
  | anyOne {character : Char} {pattern text : Text} (further : Matches pattern text) :
      Matches ('_' :: pattern) (character :: text)
  | anyRun {run pattern text : Text} (further : Matches pattern text) :
      Matches ('%' :: pattern) (run ++ text)
  | itself {character : Char} {pattern text : Text} (unmarked : character ∉ marks)
      (further : Matches pattern text) : Matches (character :: pattern) (character :: text)
  | lastBackslash : Matches ['\\'] ['\\']

/-! ### Escaping character by character -/

/-- What stands for a character in an escaped text. -/
def escapedChar (character : Char) : Text :=
  if character ∈ marks then ['\\', character] else [character]

theorem escape_append (first second : Text) :
    escape (first ++ second) = escape first ++ escape second := by
  simp only [escape, Text.replaceChar, List.flatMap_append]

theorem escape_singleton (character : Char) : escape [character] = escapedChar character := by
  by_cases marked : character ∈ marks
  · rw [escapedChar, if_pos marked]
    simp only [marks, List.mem_cons, List.not_mem_nil, or_false] at marked
    rcases marked with rfl | rfl | rfl <;> rfl
  · rw [escapedChar, if_neg marked]
    simp only [marks, List.mem_cons, List.not_mem_nil, or_false, not_or] at marked
    obtain ⟨backslash, underscore, percent⟩ := marked
    simp only [escape, Text.replaceChar, List.flatMap_singleton, if_neg backslash,
      if_neg underscore, if_neg percent]

theorem escape_cons (character : Char) (text : Text) :
    escape (character :: text) = escapedChar character ++ escape text := by
  rw [← escape_singleton, ← escape_append]
  rfl

/-! ### Matching escaped texts -/

/-- What stands for a character matches it and nothing else, in front of any pattern. -/
theorem matches_escapedChar_append (character : Char) (pattern text : Text) :
    Matches (escapedChar character ++ pattern) text ↔
      ∃ rest, text = character :: rest ∧ Matches pattern rest := by
  by_cases marked : character ∈ marks
  · rw [escapedChar, if_pos marked]
    constructor
    · intro fits
      cases fits with
      | escaped further => exact ⟨_, rfl, further⟩
      | itself unmarked _ => exact absurd List.mem_cons_self unmarked
    · rintro ⟨rest, rfl, further⟩
      exact .escaped further
  · rw [escapedChar, if_neg marked]
    constructor
    · intro fits
      cases fits with
      | itself _ further => exact ⟨_, rfl, further⟩
      | escaped | anyOne | anyRun | lastBackslash => exact absurd (by decide) marked
    · rintro ⟨rest, rfl, further⟩
      exact .itself marked further

/-- An escaped text matches this text and no other. -/
theorem matches_escape_iff (text other : Text) : Matches (escape text) other ↔ other = text := by
  induction text generalizing other with
  | nil =>
    constructor
    · intro fits
      cases fits
      rfl
    · rintro rfl
      exact .nil
  | cons character text inductionHypothesis =>
    rw [escape_cons, matches_escapedChar_append]
    constructor
    · rintro ⟨rest, rfl, further⟩
      rw [(inductionHypothesis rest).mp further]
    · rintro rfl
      exact ⟨text, rfl, (inductionHypothesis text).mpr rfl⟩

end DumpRestore.Like
