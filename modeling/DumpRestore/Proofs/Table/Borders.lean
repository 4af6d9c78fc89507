/-
This file proves that the fragments of a table body account for the whole body, whatever the source
is. The body starts behind an opening parenthesis, with its first fragment; each further fragment
starts behind the comma at which the one before it ends; and the last one ends at the parenthesis
that closes the body, or at the end of the source, or at a comma with nothing but blanks behind it.

The first two follow from the steps of the reader alone. Which parenthesis closes the body does not,
since a step may take any parenthesis into the fragment in progress: this is what the comparison
with the reader of expressions is for.
-/

import DumpRestore.Proofs.Table.Comments
import DumpRestore.Proofs.Table.Fragments
import DumpRestore.Proofs.Table.Places
import Mathlib.Data.List.Chain

namespace DumpRestore.TableBody

open Nesting

/-! ### The beginning of the body -/

/-- A reader that has no fragment in progress finds no body, or it finds one behind an opening
parenthesis and goes on with an empty fragment there. -/
def FindsBody (place : Place) (position : Nat) (depth : Int) (text : Text) : Prop :=
  fragmentsFrom place position depth none text = [] ∨
    ∃ front body, text = front ++ '(' :: body ∧
      fragmentsFrom place position depth none text =
        fragmentsFrom .plain (position + front.length + 1) 1
          (some { offset := position + front.length + 1, reversed := [] }) body

/-- Characters may stand in front of the body that no fragment takes. -/
theorem FindsBody.behind {place next : Place} {position : Nat} {depth inner : Int} {text : Text}
    (passed : Text)
    (step : fragmentsFrom place position depth none (passed ++ text) =
      fragmentsFrom next (position + passed.length) inner none text)
    (further : FindsBody next (position + passed.length) inner text) :
    FindsBody place position depth (passed ++ text) := by
  obtain none_ | ⟨front, body, rfl, found⟩ := further
  · exact .inl (step.trans none_)
  · refine .inr ⟨passed ++ front, body, (List.append_assoc _ _ _).symm, ?_⟩
    rw [step, found, List.length_append, Nat.add_assoc position]

/-- Whatever its place and depth, the reader finds no body or one behind an opening parenthesis. -/
theorem findsBody (place : Place) (text : Text) (position : Nat) (depth : Int) :
    FindsBody place position depth text := by
  induction walk place text generalizing position depth with
  | finish place => exact .inl (fragmentsFrom_nil _ _ _ none)
  | cutOff quote character escaped => exact .inl (fragmentsFrom_cutOff _ _ none _ _ escaped)
  | step place next characters rest step _ inductionHypothesis =>
    exact .behind characters (step.fragmentsFrom _ _ none) (inductionHypothesis _ depth)
  | opening rest _ inductionHypothesis =>
    by_cases outermost : depth = 0
    · subst outermost
      exact .inr ⟨[], rest, rfl, fragmentsFrom_begin position rest⟩
    · exact .behind ['('] (fragmentsFrom_openBefore _ _ _ outermost)
        (inductionHypothesis _ (depth + 1))
  | closing rest _ inductionHypothesis =>
    exact .behind [')'] (fragmentsFrom_closeBefore _ _ _) (inductionHypothesis _ (depth - 1))
  | comma rest _ inductionHypothesis =>
    exact .behind [','] (fragmentsFrom_commaBefore _ _ _) (inductionHypothesis _ depth)

/-! ### Borders -/

/-- A comma stands where a fragment ends, and the next one starts behind it. -/
def Joins (source : Text) (former latter : Fragment) : Prop :=
  source[former.stop]? = some ',' ∧ latter.offset = former.stop + 1

/-- Nothing that counts is left of a source at a position: the source ends there, or a comma stands
there with nothing but blanks behind it. -/
def NothingLeft (source : Text) (position : Nat) : Prop :=
  position = source.length ∨
    ∃ blanks, source.drop position = ',' :: blanks ∧ blanks.all Text.isBlank = true

/-- Fragments of a body that starts at a position, each of which ends where the next one is joined
to it, up to a closing parenthesis or until nothing is left. -/
structure Borders (source : Text) (start : Nat) (fragments : List Fragment) : Prop where
  first : ∀ fragment ∈ fragments.head?, fragment.offset = start
  joined : fragments.IsChain (Joins source)
  last : ∀ fragment ∈ fragments.getLast?,
    source[fragment.stop]? = some ')' ∨ NothingLeft source fragment.stop

theorem borders_nil (source : Text) (start : Nat) : Borders source start [] :=
  ⟨nofun, .nil, nofun⟩

theorem borders_singleton (source : Text) (fragment : Fragment)
    (last : source[fragment.stop]? = some ')' ∨ NothingLeft source fragment.stop) :
    Borders source fragment.offset [fragment] where
  first := fun _ same => Option.some.inj same ▸ rfl
  joined := .singleton _
  last := fun _ same => Option.some.inj same ▸ last

/-- One more fragment, with a comma behind it. Where no fragment follows, nothing may be left. -/
theorem Borders.cons {source : Text} {fragment : Fragment} {fragments : List Fragment}
    (borders : Borders source (fragment.stop + 1) fragments)
    (comma : source[fragment.stop]? = some ',')
    (alone : fragments = [] → NothingLeft source fragment.stop) :
    Borders source fragment.offset (fragment :: fragments) where
  first := fun _ same => Option.some.inj same ▸ rfl
  joined := borders.joined.cons fun second isNext => ⟨comma, borders.first second isNext⟩
  last := by
    cases fragments with
    | nil => exact fun _ same => Option.some.inj same ▸ .inr (alone rfl)
    | cons second fragments =>
      rw [List.getLast?_cons_cons]
      exact borders.last

/-- A run with a fragment in progress gives no fragment only over blanks. -/
theorem Cuts.isBlank {position : Nat} {current : Progress} {text : Text}
    (cuts : Cuts position (some current) text []) :
    current.reversed.all Text.isBlank = true ∧ text.all Text.isBlank = true := by
  generalize inProgress : some current = progress at cuts
  generalize none_ : ([] : List Fragment) = fragments at cuts
  induction cuts generalizing current with
  | finish position progress =>
    subst inProgress
    rw [unfinished] at none_
    split at none_
    · exact ⟨‹_›, rfl⟩
    · cases none_
  | take position progress character rest fragments further inductionHypothesis =>
    subst inProgress
    obtain ⟨taken, left⟩ := @inductionHypothesis (current.push character) rfl none_
    obtain ⟨blank, before⟩ := Bool.and_eq_true_iff.mp taken
    exact ⟨before, Bool.and_eq_true_iff.mpr ⟨blank, left⟩⟩
  | begin position rest fragments further inductionHypothesis => cases inProgress
  | cut position progress rest fragments further inductionHypothesis => cases none_
  | close position progress rest => cases none_

/-- The fragments of a run border on each other, from the fragment in progress on. -/
theorem Cuts.borders {position : Nat} {current : Progress} {text : Text}
    {fragments : List Fragment} (cuts : Cuts position (some current) text fragments)
    (read : Text) (length : read.length = position) (reaches : current.fragment.stop = position) :
    Borders (read ++ text) current.offset fragments := by
  generalize inProgress : some current = progress at cuts
  induction cuts generalizing read current with
  | finish position progress =>
    subst inProgress
    rw [unfinished]
    split
    · exact borders_nil _ _
    · refine borders_singleton _ current.fragment (.inr (.inl ?_))
      rw [reaches, List.append_nil, length]
  | take position progress character rest fragments further inductionHypothesis =>
    subst inProgress
    have next := @inductionHypothesis (current.push character) (read ++ [character])
      (by rw [List.length_append, length]; rfl) (reaches ▸ stop_grown rfl [character]) rfl
    rwa [List.append_assoc] at next
  | begin position rest fragments further inductionHypothesis => cases inProgress
  | cut position current rest fragments further inductionHypothesis =>
    cases inProgress
    subst length
    have next := @inductionHypothesis { offset := read.length + 1, reversed := [] } (read ++ [','])
      (by rw [List.length_append]; rfl) rfl rfl
    rw [List.append_assoc, List.singleton_append, ← reaches] at next
    have left : (read ++ ',' :: rest).drop current.fragment.stop = ',' :: rest := by
      rw [reaches, List.drop_left]
    refine next.cons ?_ fun none_ => .inr ⟨rest, left, ?_⟩
    · rw [reaches, List.getElem?_append_right (Nat.le_refl _), Nat.sub_self]
      rfl
    · subst none_
      exact further.isBlank.2
  | close position current rest =>
    cases inProgress
    subst length
    refine borders_singleton _ current.fragment (.inl ?_)
    rw [reaches, List.getElem?_append_right (Nat.le_refl _), Nat.sub_self]
    rfl

/-! ### The whole body -/

/-- The parenthesis that closes the body which starts at a position, found by the reader of
expressions where comments count as blanks. -/
def closing? (source : Text) (start : Nat) : Option Nat :=
  (closingLength? 0 none (blankComments .plain (source.drop start))).map fun length =>
    start + length - 1

/-- Fragments account for the whole body of a table. -/
structure Accounted (source : Text) (fragments : List Fragment) : Prop where
  /-- Each fragment stands in the source where it says. -/
  standing : ∀ fragment ∈ fragments, Text.StandsAt source fragment.offset fragment.text
  /-- The first fragment stands directly behind an opening parenthesis. -/
  opened : ∀ first ∈ fragments.head?, ∃ index, first.offset = index + 1 ∧ source[index]? = some '('
  /-- Each next fragment stands directly behind the comma at which the one before it ends. -/
  joined : fragments.IsChain (Joins source)
  /-- The last fragment ends at the parenthesis that closes the body. Where none does, nothing is
  left of the source behind the last fragment. -/
  ended : ∀ first ∈ fragments.head?, ∀ last ∈ fragments.getLast?,
    (closing? source first.offset = some last.stop ∧ source[last.stop]? = some ')') ∨
      (closing? source first.offset = none ∧ NothingLeft source last.stop)

section Body

variable {read body : Text} {fragments : List Fragment}

theorem getElem?_behind (index : Nat) : (read ++ body)[read.length + index]? = body[index]? := by
  rw [List.getElem?_append_right (Nat.le_add_right _ _), Nat.add_sub_cancel_left]

/-- Where the fragments of a body end, its closing parenthesis stands, or there is none and nothing
is left. -/
theorem Borders.ended (borders : Borders (read ++ body) read.length fragments)
    (stops : StopsBehind read.length body fragments
      (closingLength? 0 none (blankComments .plain body)))
    (last : Fragment) (isLast : last ∈ fragments.getLast?) :
    (closing? (read ++ body) read.length = some last.stop ∧
        (read ++ body)[last.stop]? = some ')') ∨
      (closing? (read ++ body) read.length = none ∧ NothingLeft (read ++ body) last.stop) := by
  rw [closing?, List.drop_left]
  cases answer : closingLength? 0 none (blankComments .plain body) with
  | some length =>
    rw [answer] at stops
    obtain ⟨index, fragment, rfl, isLastToo, stop, closes⟩ := stops
    cases isLastToo.symm.trans isLast
    rw [stop, getElem?_behind]
    exact .inl ⟨rfl, closes⟩
  | none =>
    rw [answer] at stops
    obtain ⟨index, stop, open_⟩ := stops last isLast
    refine .inr ⟨rfl, (borders.last last isLast).resolve_left ?_⟩
    rwa [stop, getElem?_behind]

end Body

/-- There are no fragments, or they are those of a body behind an opening parenthesis. -/
theorem split_cases (source : Text) :
    split source = [] ∨ ∃ front body, source = front ++ '(' :: body ∧
      split source = fragmentsFrom .plain (front.length + 1) 1
        (some { offset := front.length + 1, reversed := [] }) body := by
  have found := findsBody .plain source 0 0
  simp only [FindsBody, Nat.zero_add] at found
  exact found

/-- Cutting a table body loses nothing and doubles nothing, whatever the source is. -/
theorem accounted_split (source : Text) : Accounted source (split source) := by
  have standing := standsAt_of_mem_split source
  obtain empty | ⟨front, body, equal, found⟩ := split_cases source
  · rw [empty] at standing ⊢
    exact ⟨standing, nofun, .nil, nofun⟩
  let begun : Progress := { offset := front.length + 1, reversed := [] }
  have length : (front ++ ['(']).length = front.length + 1 := List.length_append
  have source_eq : source = (front ++ ['(']) ++ body := by
    rw [equal, List.append_assoc, List.singleton_append]
  have borders : Borders source (front.length + 1) (split source) := by
    rw [found, source_eq]
    exact (cuts_fragmentsFrom .plain (front.length + 1) 1 (some begun) body).borders _ length rfl
  have stops : StopsBehind (front.length + 1) body (split source)
      (closingLength? 0 none (blankComments .plain body)) :=
    found ▸ stopTogether_blankComments .plain body _ 0 begun quotes_none rfl
  refine ⟨standing, fun first isFirst => ?_, borders.joined, fun first isFirst => ?_⟩
  · refine ⟨front.length, borders.first first isFirst, ?_⟩
    rw [equal, List.getElem?_append_right (Nat.le_refl _), Nat.sub_self]
    rfl
  · rw [borders.first first isFirst]
    rw [source_eq, ← length] at borders stops ⊢
    exact borders.ended stops

end DumpRestore.TableBody
