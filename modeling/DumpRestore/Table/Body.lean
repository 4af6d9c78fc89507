/-
This file cuts the body of a CREATE TABLE statement at its top-level commas. Commas in quoted
stretches, in comments and in inner parentheses do not count. Comments start with a number sign or
with two hyphens and a blank and end with their line, or stand between slash-star and star-slash.
-/

import DumpRestore.Column.Nesting
import DumpRestore.Text.Blank

namespace DumpRestore

/-- A stretch of a source and the position of its first character. -/
structure Fragment where
  text : Text
  offset : Nat
deriving Repr, DecidableEq

namespace TableBody

/-- Where a reader of SQL stands: in plain SQL, in a quoted stretch, or in a comment of either
sort. -/
inductive Place where
  | plain
  | quoted (quote : Char)
  | lineComment
  | blockComment
deriving Repr, DecidableEq

/-- A fragment in progress: where it starts, and its characters so far in reverse. -/
structure Progress where
  offset : Nat
  reversed : Text

namespace Progress

/-- The fragment read so far. -/
def fragment (progress : Progress) : Fragment :=
  { text := progress.reversed.reverse, offset := progress.offset }

/-- One more character. -/
def push (character : Char) (progress : Progress) : Progress :=
  { progress with reversed := character :: progress.reversed }

end Progress

/-- The fragment that is in progress where the source ends: it counts unless it is blank. -/
def unfinished : Option Progress → List Fragment
  | none => []
  | some progress =>
    if progress.reversed.all Text.isBlank then [] else [progress.fragment]

/-- The fragments that end in the rest of a source. The state of the reader is its place, its
position, the depth of parentheses, which may fall below zero, and the fragment in progress, if
the body has begun. -/
def fragmentsFrom : (place : Place) → (position : Nat) → (depth : Int) →
    (progress : Option Progress) → Text → List Fragment
  | _, _, _, progress, [] => unfinished progress
  | .quoted quote, position, depth, progress, character :: rest =>
    let pushed := progress.map (Progress.push character)
    if Nesting.escapes quote character then
      match rest with
      | [] => unfinished pushed
      | next :: after =>
        fragmentsFrom (.quoted quote) (position + 2) depth (pushed.map (Progress.push next)) after
    else if character = quote then
      match rest with
      | [] => unfinished pushed
      | next :: after =>
        if next = quote then
          fragmentsFrom (.quoted quote) (position + 2) depth (pushed.map (Progress.push next)) after
        else fragmentsFrom .plain (position + 1) depth pushed (next :: after)
    else fragmentsFrom (.quoted quote) (position + 1) depth pushed rest
  | .lineComment, position, depth, progress, character :: rest =>
    let place := if character = '\n' then .plain else .lineComment
    fragmentsFrom place (position + 1) depth (progress.map (Progress.push character)) rest
  | .blockComment, position, depth, progress, character :: rest =>
    let pushed := progress.map (Progress.push character)
    match rest with
    | [] => unfinished pushed
    | next :: after =>
      if character = '*' ∧ next = '/' then
        fragmentsFrom .plain (position + 2) depth (pushed.map (Progress.push next)) after
      else fragmentsFrom .blockComment (position + 1) depth pushed (next :: after)
  | .plain, position, depth, progress, character :: rest =>
    let pushed := progress.map (Progress.push character)
    if Nesting.isQuote character then
      fragmentsFrom (.quoted character) (position + 1) depth pushed rest
    else if character = '#' then
      fragmentsFrom .lineComment (position + 1) depth pushed rest
    else if character = '(' then
      let begun := match pushed with
        | some progress => some progress
        | none => if depth = 0 then some { offset := position + 1, reversed := [] } else none
      fragmentsFrom .plain (position + 1) (depth + 1) begun rest
    else if character = ')' then
      match progress with
      | some progress =>
        if depth = 1 then [progress.fragment]
        else fragmentsFrom .plain (position + 1) (depth - 1) pushed rest
      | none => fragmentsFrom .plain (position + 1) (depth - 1) none rest
    else if character = ',' then
      match progress with
      | some progress =>
        if depth = 1 then
          progress.fragment ::
            fragmentsFrom .plain (position + 1) depth
              (some { offset := position + 1, reversed := [] }) rest
        else fragmentsFrom .plain (position + 1) depth pushed rest
      | none => fragmentsFrom .plain (position + 1) depth none rest
    else
      match rest with
      | [] => unfinished pushed
      | next :: after =>
        if character = '/' ∧ next = '*' then
          fragmentsFrom .blockComment (position + 2) depth (pushed.map (Progress.push next)) after
        else if character = '-' ∧ next = '-' ∧ after.head? = some ' ' then
          fragmentsFrom .lineComment (position + 1) depth pushed (next :: after)
        else fragmentsFrom .plain (position + 1) depth pushed (next :: after)

/-- The fragments of the body of a table between its top-level commas. The body starts at the
first parenthesis that is not nested and ends at the one that closes it; where none does, what
is left after the last comma counts unless it is blank. -/
def split (source : Text) : List Fragment :=
  fragmentsFrom .plain 0 0 none source

end TableBody

end DumpRestore
