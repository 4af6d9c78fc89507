/-
This file describes the fragment in progress of the reader of a table body: how it grows, and what
becomes of it where the source ends.
-/

import DumpRestore.Table.Body

namespace DumpRestore.TableBody

/-! ### The fragment in progress -/

/-- A fragment in progress with some more text. -/
def Progress.grown (text : Text) (progress : Progress) : Progress :=
  { progress with reversed := text.reverse ++ progress.reversed }

/-- The fragment in progress, if there is one, after some more text. -/
def taken (text : Text) (progress : Option Progress) : Option Progress :=
  progress.map (Progress.grown text)

theorem taken_append (first second : Text) (progress : Option Progress) :
    taken (first ++ second) progress = taken second (taken first progress) := by
  cases progress with
  | none => rfl
  | some current =>
    simp only [taken, Option.map_some, Progress.grown, List.reverse_append, List.append_assoc]

theorem taken_cons (character : Char) (text : Text) (progress : Option Progress) :
    taken (character :: text) progress = taken text (taken [character] progress) :=
  taken_append [character] text progress

/-! ### The end of the source -/

theorem fragmentsFrom_nil (place : Place) (position : Nat) (depth : Int)
    (progress : Option Progress) :
    fragmentsFrom place position depth progress [] = unfinished progress := by
  rw [fragmentsFrom.eq_def]

/-- A character at the end of the source has nothing to escape. -/
theorem fragmentsFrom_cutOff (position : Nat) (depth : Int) (progress : Option Progress)
    (quote character : Char) (escaped : Nesting.escapes quote character = true) :
    fragmentsFrom (.quoted quote) position depth progress [character] =
      unfinished (taken [character] progress) := by
  rw [fragmentsFrom.eq_def]
  exact if_pos escaped

end DumpRestore.TableBody
