/-
This file describes the steps of the reader of a table body, in plain SQL, in quoted texts and in
comments. Whatever a step does to its place and to its depth, it takes its characters into the
fragment in progress, if there is one.
-/

import DumpRestore.Proofs.Column.Nesting
import DumpRestore.Proofs.Table.Progress

namespace DumpRestore.TableBody

section Steps

variable (position : Nat) (depth : Int) (progress : Option Progress) (quote character next : Char)
  (rest : Text)

theorem fragmentsFrom_escape (escaped : Nesting.escapes quote character = true) :
    fragmentsFrom (.quoted quote) position depth progress (character :: next :: rest) =
      fragmentsFrom (.quoted quote) (position + 2) depth (taken [character, next] progress)
        rest := by
  rw [taken_cons, fragmentsFrom.eq_def]
  exact if_pos escaped

theorem fragmentsFrom_doubled (unescaped : Nesting.escapes quote quote = false) :
    fragmentsFrom (.quoted quote) position depth progress (quote :: quote :: rest) =
      fragmentsFrom (.quoted quote) (position + 2) depth (taken [quote, quote] progress) rest := by
  rw [taken_cons, fragmentsFrom.eq_def]
  exact (if_neg (Bool.eq_false_iff.mp unescaped)).trans ((if_pos rfl).trans (if_pos rfl))

theorem fragmentsFrom_unquote (unescaped : Nesting.escapes quote quote = false)
    (ends : rest.head? ≠ some quote) :
    fragmentsFrom (.quoted quote) position depth progress (quote :: rest) =
      fragmentsFrom .plain (position + 1) depth (taken [quote] progress) rest := by
  rw [fragmentsFrom.eq_def]
  refine (if_neg (Bool.eq_false_iff.mp unescaped)).trans ((if_pos rfl).trans ?_)
  cases rest with
  | nil => exact (fragmentsFrom_nil _ _ _ _).symm
  | cons next rest => exact if_neg fun same => ends (congrArg some same)

theorem fragmentsFrom_quoted (unescaped : Nesting.escapes quote character = false)
    (other : character ≠ quote) :
    fragmentsFrom (.quoted quote) position depth progress (character :: rest) =
      fragmentsFrom (.quoted quote) (position + 1) depth (taken [character] progress) rest := by
  rw [fragmentsFrom.eq_def]
  exact (if_neg (Bool.eq_false_iff.mp unescaped)).trans (if_neg other)

theorem fragmentsFrom_quote (opens : Nesting.isQuote character = true) :
    fragmentsFrom .plain position depth progress (character :: rest) =
      fragmentsFrom (.quoted character) (position + 1) depth (taken [character] progress)
        rest := by
  rw [fragmentsFrom.eq_def]
  exact if_pos opens

/-- A quote ends the quoted stretch that it opened. Where the same quote follows, it stays in the
stretch, which is the same as ending it and opening it again. -/
theorem fragmentsFrom_endQuote (opens : Nesting.isQuote quote = true) :
    fragmentsFrom (.quoted quote) position depth progress (quote :: rest) =
      fragmentsFrom .plain (position + 1) depth (taken [quote] progress) rest := by
  have unescaped := Nesting.escapes_self_of_isQuote quote opens
  by_cases again : rest.head? = some quote
  · obtain ⟨after, rfl⟩ := List.head?_eq_some_iff.mp again
    rw [fragmentsFrom_doubled position depth progress quote after unescaped,
      fragmentsFrom_quote _ _ _ quote after opens, ← taken_append]
    rfl
  · exact fragmentsFrom_unquote position depth progress quote rest unescaped again

theorem fragmentsFrom_open (current : Progress) :
    fragmentsFrom .plain position depth (some current) ('(' :: rest) =
      fragmentsFrom .plain (position + 1) (depth + 1) (taken ['('] (some current)) rest := by
  rw [fragmentsFrom.eq_def]
  rfl

theorem fragmentsFrom_close (current : Progress) (inner : depth ≠ 1) :
    fragmentsFrom .plain position depth (some current) (')' :: rest) =
      fragmentsFrom .plain (position + 1) (depth - 1) (taken [')'] (some current)) rest := by
  rw [fragmentsFrom.eq_def]
  exact if_neg inner

theorem fragmentsFrom_comma (current : Progress) (inner : depth ≠ 1) :
    fragmentsFrom .plain position depth (some current) (',' :: rest) =
      fragmentsFrom .plain (position + 1) depth (taken [','] (some current)) rest := by
  rw [fragmentsFrom.eq_def]
  exact if_neg inner

/-- The body of a table begins behind the first parenthesis that is not nested. -/
theorem fragmentsFrom_begin :
    fragmentsFrom .plain position 0 none ('(' :: rest) =
      fragmentsFrom .plain (position + 1) 1 (some { offset := position + 1, reversed := [] })
        rest := by
  rw [fragmentsFrom.eq_def]
  rfl

theorem fragmentsFrom_cut (current : Progress) :
    fragmentsFrom .plain position 1 (some current) (',' :: rest) =
      current.fragment ::
        fragmentsFrom .plain (position + 1) 1 (some { offset := position + 1, reversed := [] })
          rest := by
  rw [fragmentsFrom.eq_def]
  rfl

theorem fragmentsFrom_end (current : Progress) :
    fragmentsFrom .plain position 1 (some current) (')' :: rest) = [current.fragment] := by
  rw [fragmentsFrom.eq_def]
  rfl

/-- A character in plain SQL that is no mark and starts no comment is taken. -/
theorem fragmentsFrom_plain (plain : Nesting.isQuote character = false)
    (notOpen : character ≠ '(') (notClose : character ≠ ')') (notComma : character ≠ ',')
    (quiet : Nesting.startsComment (character :: rest) = false) :
    fragmentsFrom .plain position depth progress (character :: rest) =
      fragmentsFrom .plain (position + 1) depth (taken [character] progress) rest := by
  simp only [Nesting.startsComment, Bool.or_eq_false_iff, Bool.and_eq_false_iff,
    beq_eq_false_iff_ne, ne_eq] at quiet
  obtain ⟨⟨notHash, notSlash⟩, notHyphen⟩ := quiet
  rw [fragmentsFrom.eq_def]
  refine (if_neg (Bool.eq_false_iff.mp plain)).trans ((if_neg notHash).trans
    ((if_neg notOpen).trans ((if_neg notClose).trans ((if_neg notComma).trans ?_))))
  cases rest with
  | nil => exact (fragmentsFrom_nil _ _ _ _).symm
  | cons next rest =>
    refine (if_neg ?_).trans (if_neg ?_)
    · rintro ⟨slash, star⟩
      rcases notSlash with different | different
      · exact different slash
      · exact different (congrArg some star)
    · rintro ⟨hyphen, second, blank⟩
      rcases notHyphen with (different | different) | different
      · exact different hyphen
      · exact different (congrArg some second)
      · exact different blank

/-- A number sign, and two hyphens with a blank, start a comment up to the end of the line. -/
theorem fragmentsFrom_lineOpening (starts : Nesting.startsComment (character :: rest) = true)
    (other : character ≠ '/') :
    fragmentsFrom .plain position depth progress (character :: rest) =
      fragmentsFrom .lineComment (position + 1) depth (taken [character] progress) rest := by
  simp only [Nesting.startsComment, Bool.or_eq_true, Bool.and_eq_true, beq_iff_eq] at starts
  rcases starts with (rfl | ⟨slash, _⟩) | ⟨⟨rfl, second⟩, blank⟩
  · rw [fragmentsFrom.eq_def]
    rfl
  · exact absurd slash other
  · obtain ⟨after, rfl⟩ := List.head?_eq_some_iff.mp second
    have hyphens : '-' = '-' ∧ '-' = '-' ∧ after.head? = some ' ' :=
      ⟨rfl, rfl, by simpa using blank⟩
    rw [fragmentsFrom.eq_def]
    exact if_pos hyphens

theorem fragmentsFrom_blockOpening :
    fragmentsFrom .plain position depth progress ('/' :: '*' :: rest) =
      fragmentsFrom .blockComment (position + 2) depth (taken ['/', '*'] progress) rest := by
  rw [taken_cons, fragmentsFrom.eq_def]
  rfl

theorem fragmentsFrom_lineComment :
    fragmentsFrom .lineComment position depth progress (character :: rest) =
      fragmentsFrom (if character = '\n' then .plain else .lineComment) (position + 1) depth
        (taken [character] progress) rest := by
  rw [fragmentsFrom.eq_def]
  rfl

theorem fragmentsFrom_blockEnd :
    fragmentsFrom .blockComment position depth progress ('*' :: '/' :: rest) =
      fragmentsFrom .plain (position + 2) depth (taken ['*', '/'] progress) rest := by
  rw [taken_cons, fragmentsFrom.eq_def]
  rfl

theorem fragmentsFrom_blockComment (within : ¬ (character = '*' ∧ rest.head? = some '/')) :
    fragmentsFrom .blockComment position depth progress (character :: rest) =
      fragmentsFrom .blockComment (position + 1) depth (taken [character] progress) rest := by
  rw [fragmentsFrom.eq_def]
  cases rest with
  | nil => exact (fragmentsFrom_nil _ _ _ _).symm
  | cons next rest => exact if_neg fun ends => within ⟨ends.1, congrArg some ends.2⟩

end Steps

end DumpRestore.TableBody
