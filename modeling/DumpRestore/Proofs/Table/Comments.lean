/-
This file compares the two readers that follow nested parentheses: the reader that cuts the body of
a table, and the reader that looks for the end of an expression. They have the rules for quotes in
common, but only the first one knows comments; the second one reads a quote or a parenthesis in a
comment as if it stood in the SQL. What holds is that the first reader stops where the second one
would stop if every comment were blank, so the two agree exactly where it makes no difference to
the second one that the comments are there.
-/

import DumpRestore.Proofs.Table.Passing
import DumpRestore.Proofs.Table.Walk

namespace DumpRestore

/-- The position behind the last character of a fragment. -/
def Fragment.stop (fragment : Fragment) : Nat :=
  fragment.offset + fragment.text.length

namespace TableBody

open Nesting

/-! ### Where the reader of a table body stops -/

/-- The reader of a table body stops at a position of its source: the last fragment ends there, and
the parenthesis that closes the body stands there. A fragment that ends elsewhere ends at a comma or
at the end of the source. -/
def StopsAt (source : Text) (index : Nat) : Prop :=
  ∃ fragment, (split source).getLast? = some fragment ∧ fragment.stop = index ∧
    source[index]? = some ')'

/-- What the fragments that were read from a position on say of the text behind that position: the
parenthesis at which the reader stops is the last of so many characters, or there is none. -/
def StopsBehind (position : Nat) (text : Text) (fragments : List Fragment) : Option Nat → Prop
  | some length => ∃ index fragment, length = index + 1 ∧ fragments.getLast? = some fragment ∧
      fragment.stop = position + index ∧ text[index]? = some ')'
  | none => ∀ fragment, fragments.getLast? = some fragment →
      ∃ index, fragment.stop = position + index ∧ text[index]? ≠ some ')'

section StopsBehind

variable {position : Nat} {text : Text} {fragments : List Fragment} {answer : Option Nat}

/-- Characters may stand in front that the reader has taken already. -/
theorem StopsBehind.behind (taken : Text)
    (stops : StopsBehind (position + taken.length) text fragments answer) :
    StopsBehind position (taken ++ text) fragments (answer.map (· + taken.length)) := by
  have further (index : Nat) : (taken ++ text)[taken.length + index]? = text[index]? := by
    rw [List.getElem?_append_right (Nat.le_add_right _ _), Nat.add_sub_cancel_left]
  cases answer with
  | some length =>
    obtain ⟨index, fragment, rfl, isLast, stop, closes⟩ := stops
    refine ⟨taken.length + index, fragment, ?_, isLast, by omega, ?_⟩
    · show index + 1 + taken.length = taken.length + index + 1
      omega
    · rw [further, closes]
  | none =>
    intro fragment isLast
    obtain ⟨index, stop, open_⟩ := stops fragment isLast
    refine ⟨taken.length + index, by omega, ?_⟩
    rwa [further]

/-- A fragment that ends at a comma is the last one only where none follows. -/
theorem StopsBehind.cut (first : Fragment) (ends : first.stop = position)
    (stops : StopsBehind (position + 1) text fragments answer) :
    StopsBehind position (',' :: text) (first :: fragments) (answer.map (· + 1)) := by
  have behind := stops.behind [',']
  rw [List.singleton_append, List.length_singleton] at behind
  cases fragments with
  | cons second fragments =>
    cases answer <;> exact behind
  | nil =>
    cases answer with
    | some length =>
      obtain ⟨_, _, _, impossible, _⟩ := stops
      cases impossible
    | none =>
      intro fragment isLast
      cases isLast
      exact ⟨0, ends, by simp⟩

theorem stopsBehind_unfinished (progress : Progress)
    (reaches : progress.fragment.stop = position) :
    StopsBehind position [] (unfinished (some progress)) none := by
  intro fragment isLast
  rw [unfinished] at isLast
  split at isLast
  · cases isLast
  · cases isLast
    exact ⟨0, reaches, by simp⟩

theorem stopsBehind_close (current : Progress) (reaches : current.fragment.stop = position)
    (rest : Text) : StopsBehind position (')' :: rest) [current.fragment] (some 1) :=
  ⟨0, current.fragment, rfl, rfl, reaches, rfl⟩

end StopsBehind

/-! ### Comments left blank -/

/-- The quote in whose stretch a place is. -/
def Place.quote? : Place → Option Char
  | .quoted quote => some quote
  | _ => none

/-- The text with blanks in the place of comments. The place is the one that the text starts in. A
doubled quote counts as one that ends the stretch and one that opens it again. -/
def blankComments : Place → Text → Text
  | _, [] => []
  | .quoted quote, character :: rest =>
    if escapes quote character then
      match rest with
      | [] => [character]
      | next :: after => character :: next :: blankComments (.quoted quote) after
    else character :: blankComments (if character = quote then .plain else .quoted quote) rest
  | .lineComment, character :: rest =>
    ' ' :: blankComments (if character = '\n' then .plain else .lineComment) rest
  | .blockComment, character :: rest =>
    match rest with
    | [] => [' ']
    | next :: after =>
      if character = '*' ∧ next = '/' then ' ' :: ' ' :: blankComments .plain after
      else ' ' :: blankComments .blockComment (next :: after)
  | .plain, character :: rest =>
    if isQuote character then character :: blankComments (.quoted character) rest
    else if startsComment (character :: rest) then
      match rest with
      | [] => [' ']
      | next :: after =>
        if character = '/' then ' ' :: ' ' :: blankComments .blockComment after
        else ' ' :: blankComments .lineComment (next :: after)
    else character :: blankComments .plain rest

section Blanked

variable (quote character next : Char) (rest : Text)

theorem blankComments_escape (escaped : escapes quote character = true) :
    blankComments (.quoted quote) (character :: next :: rest) =
      character :: next :: blankComments (.quoted quote) rest := by
  rw [blankComments.eq_def]
  exact if_pos escaped

theorem blankComments_quoted (unescaped : escapes quote character = false) :
    blankComments (.quoted quote) (character :: rest) =
      character :: blankComments (if character = quote then .plain else .quoted quote) rest := by
  rw [blankComments.eq_def]
  exact if_neg (Bool.eq_false_iff.mp unescaped)

theorem blankComments_quote (opens : isQuote character = true) :
    blankComments .plain (character :: rest) =
      character :: blankComments (.quoted character) rest := by
  rw [blankComments.eq_def]
  exact if_pos opens

theorem blankComments_plain (plain : isQuote character = false)
    (quiet : startsComment (character :: rest) = false) :
    blankComments .plain (character :: rest) = character :: blankComments .plain rest := by
  rw [blankComments.eq_def]
  exact (if_neg (Bool.eq_false_iff.mp plain)).trans (if_neg (Bool.eq_false_iff.mp quiet))

theorem blankComments_open :
    blankComments .plain ('(' :: rest) = '(' :: blankComments .plain rest :=
  blankComments_plain '(' rest rfl rfl

end Blanked

/-! ### The way of the two readers -/

theorem quotes_none : ∀ quote ∈ (none : Option Char), isQuote quote = true :=
  fun _ impossible => by cases impossible

section Steps

variable (depth : Nat) (quote : Char) (rest : Text)

theorem closingLength?_space :
    closingLength? depth none (' ' :: rest) = (closingLength? depth none rest).map (· + 1) :=
  closingLength?_plain depth ' ' rest rfl (by decide) (by decide)

theorem closingLength?_two_spaces :
    closingLength? depth none (' ' :: ' ' :: rest) =
      (closingLength? depth none rest).map (· + 2) := by
  rw [closingLength?_space, closingLength?_space, Option.map_map]
  rfl

/-- A quote ends the quoted stretch that it opened. Where the same quote follows, it stays in the
stretch, which is the same as ending it and opening it again. -/
theorem closingLength?_endQuote (opens : isQuote quote = true) :
    closingLength? depth (some quote) (quote :: rest) =
      (closingLength? depth none rest).map (· + 1) := by
  have unescaped := escapes_self_of_isQuote quote opens
  cases rest with
  | nil =>
    rw [closingLength?.eq_def]
    exact (if_neg (Bool.eq_false_iff.mp unescaped)).trans (if_pos rfl)
  | cons next after =>
    by_cases same : next = quote
    · subst same
      rw [closingLength?_doubled depth next after unescaped,
        closingLength?_quote depth next after opens, Option.map_map]
      rfl
    · exact closingLength?_unquote depth quote next after unescaped same

end Steps

/-- With its comments left blank, a step is one of the reader of an expression, at any depth. -/
theorem Step.blanked {place next : Place} {characters rest : Text}
    (step : Step place characters next rest)
    (opened : ∀ quote, place = .quoted quote → isQuote quote = true) :
    ∃ blanked, blankComments place (characters ++ rest) = blanked ++ blankComments next rest ∧
      ∀ depth further, closingLength? depth place.quote? (blanked ++ further) =
        (closingLength? depth next.quote? further).map (· + characters.length) := by
  cases step with
  | escape quote character next rest escaped =>
    exact ⟨[character, next], blankComments_escape _ _ _ _ escaped,
      fun depth further => closingLength?_escape _ _ _ _ _ escaped⟩
  | doubled quote rest unescaped =>
    refine ⟨[quote, quote], ?_, fun depth further => closingLength?_doubled _ _ _ unescaped⟩
    have ended := blankComments_quoted quote quote (quote :: rest) unescaped
    rwa [if_pos rfl, blankComments_quote quote rest (opened quote rfl)] at ended
  | unquote quote rest unescaped ends =>
    have ended := blankComments_quoted quote quote rest unescaped
    rw [if_pos rfl] at ended
    exact ⟨[quote], ended, fun depth further => closingLength?_endQuote _ _ _ (opened quote rfl)⟩
  | quoted quote character rest unescaped other =>
    have stays := blankComments_quoted quote character rest unescaped
    rw [if_neg other] at stays
    exact ⟨[character], stays, fun depth further => closingLength?_quoted _ _ _ _ unescaped other⟩
  | lineComment character rest =>
    have unquoted : (if character = '\n' then Place.plain else .lineComment).quote? = none := by
      split <;> rfl
    refine ⟨[' '], ?_, fun depth further => ?_⟩
    · rw [blankComments.eq_def]
      rfl
    · rw [unquoted]
      exact closingLength?_space _ _
  | blockEnd rest =>
    refine ⟨[' ', ' '], ?_, fun depth further => closingLength?_two_spaces _ _⟩
    rw [blankComments.eq_def]
    rfl
  | blockComment character rest within =>
    refine ⟨[' '], ?_, fun depth further => closingLength?_space _ _⟩
    rw [blankComments.eq_def]
    cases rest with
    | nil => rw [blankComments]; rfl
    | cons next rest => exact if_neg fun ends => within ⟨ends.1, congrArg some ends.2⟩
  | quote character rest opens =>
    exact ⟨[character], blankComments_quote _ _ opens,
      fun depth further => closingLength?_quote _ _ _ opens⟩
  | lineOpening character rest plain starts other =>
    refine ⟨[' '], ?_, fun depth further => closingLength?_space _ _⟩
    rw [blankComments.eq_def]
    refine (if_neg (Bool.eq_false_iff.mp plain)).trans ((if_pos starts).trans ?_)
    cases rest with
    | nil => rw [blankComments]; rfl
    | cons next rest => exact if_neg other
  | blockOpening rest =>
    refine ⟨[' ', ' '], ?_, fun depth further => closingLength?_two_spaces _ _⟩
    rw [blankComments.eq_def]
    rfl
  | plain character rest plain notOpen notClose notComma quiet =>
    exact ⟨[character], blankComments_plain _ _ plain quiet,
      fun depth further => closingLength?_plain _ _ _ plain notOpen notClose⟩

theorem stop_grown {current : Progress} {position : Nat}
    (reaches : current.fragment.stop = position) (taken : Text) :
    (current.grown taken).fragment.stop = position + taken.length := by
  subst reaches
  simp only [Fragment.stop, Progress.fragment, Progress.grown, List.length_reverse,
    List.length_append]
  omega

/-- The reader of a table body, on its way over a text, stops at the parenthesis at which the reader
of an expression stops on its way over the same text with its comments left blank. -/
def StopTogether (place : Place) (position inner : Nat) (current : Progress)
    (text blanked : Text) : Prop :=
  StopsBehind position text (fragmentsFrom place position (inner + 1) (some current) text)
    (closingLength? inner place.quote? blanked)

/-- Both readers take some characters, perhaps to another place and another depth. -/
theorem StopTogether.behind {place next : Place} {position inner deeper : Nat} {current : Progress}
    {text blanked : Text} (taken blankedTaken : Text)
    (step : fragmentsFrom place position (inner + 1) (some current) (taken ++ text) =
      fragmentsFrom next (position + taken.length) (deeper + 1) (some (current.grown taken)) text)
    (blankedStep : closingLength? inner place.quote? (blankedTaken ++ blanked) =
      (closingLength? deeper next.quote? blanked).map (· + taken.length))
    (further : StopTogether next (position + taken.length) deeper (current.grown taken) text
      blanked) :
    StopTogether place position inner current (taken ++ text) (blankedTaken ++ blanked) := by
  unfold StopTogether
  rw [step, blankedStep]
  exact StopsBehind.behind taken further

theorem stopTogether_nil (place : Place) (position inner : Nat) (current : Progress)
    (reaches : current.fragment.stop = position) :
    StopTogether place position inner current [] [] := by
  unfold StopTogether
  rw [fragmentsFrom_nil, closingLength?]
  exact stopsBehind_unfinished current reaches

/-- A character at the end of the text that has nothing to escape stops neither reader. -/
theorem stopTogether_cutOff (quote character : Char) (position inner : Nat) (current : Progress)
    (reaches : current.fragment.stop = position) (escaped : escapes quote character = true) :
    StopTogether (.quoted quote) position inner current [character]
      (blankComments (.quoted quote) [character]) := by
  have step : fragmentsFrom (.quoted quote) position (inner + 1) (some current) [character] =
      fragmentsFrom (.quoted quote) (position + 1) (inner + 1)
        (some (current.grown [character])) [] := by
    rw [fragmentsFrom_cutOff _ _ _ _ _ escaped, fragmentsFrom_nil]
    rfl
  have blankedStep : closingLength? inner (some quote) [character] =
      (closingLength? inner (some quote) []).map (· + 1) := by
    rw [closingLength?.eq_def]
    exact if_pos escaped
  have stays : blankComments (.quoted quote) [character] = [character] := by
    rw [blankComments.eq_def]
    exact if_pos escaped
  rw [stays]
  exact .behind [character] [character] step blankedStep
    (stopTogether_nil _ _ _ _ (stop_grown reaches _))

theorem stopTogether_blankComments (place : Place) (text : Text) (position inner : Nat)
    (current : Progress) (quotes : ∀ quote ∈ place.quote?, isQuote quote = true)
    (reaches : current.fragment.stop = position) :
    StopTogether place position inner current text (blankComments place text) := by
  have opened : ∀ quote, place = .quoted quote → isQuote quote = true :=
    fun quote same => quotes quote (same ▸ rfl)
  clear quotes
  -- The induction is on the way over the text: each step of the one reader is a step of the other,
  -- and parentheses mean the same to both of them. A comma means something to the first one only.
  induction walk place text generalizing position inner current with
  | finish place =>
    rw [blankComments]
    exact stopTogether_nil place position inner current reaches
  | cutOff quote character escaped => exact stopTogether_cutOff _ _ _ _ _ reaches escaped
  | step place next characters rest step _ inductionHypothesis =>
    obtain ⟨blanked, equal, blankedStep⟩ := step.blanked opened
    rw [equal]
    exact .behind characters blanked (step.fragmentsFrom _ _ _) (blankedStep _ _)
      (inductionHypothesis _ _ _ (stop_grown reaches _) (step.opened opened))
  | opening rest _ inductionHypothesis =>
    rw [blankComments_open]
    exact .behind ['('] ['('] (fragmentsFrom_open _ _ _ _) (closingLength?_open _ _)
      (inductionHypothesis _ (inner + 1) _ (stop_grown reaches _) opened_plain)
  | closing rest _ inductionHypothesis =>
    rw [blankComments_plain ')' rest rfl rfl]
    cases inner with
    | zero =>
      unfold StopTogether
      rw [Int.natCast_zero, Int.zero_add, fragmentsFrom_end]
      exact stopsBehind_close current reaches rest
    | succ inner =>
      have step := fragmentsFrom_close position (inner + 1 + 1) rest current (by omega)
      rw [Int.add_sub_cancel] at step
      exact .behind [')'] [')'] step (closingLength?_close _ _)
        (inductionHypothesis _ inner _ (stop_grown reaches _) opened_plain)
  | comma rest _ inductionHypothesis =>
    have blankedStep := closingLength?_plain inner ',' (blankComments .plain rest) rfl (by decide)
      (by decide)
    rw [blankComments_plain ',' rest rfl rfl]
    cases inner with
    | zero =>
      have begun : Fragment.stop (Progress.fragment ⟨position + 1, []⟩) = position + 1 := rfl
      have next := inductionHypothesis (position + 1) 0 _ begun opened_plain
      show StopsBehind position _ _ (closingLength? 0 none _)
      rw [Int.natCast_zero, Int.zero_add, fragmentsFrom_cut, blankedStep]
      exact next.cut current.fragment reaches
    | succ inner =>
      exact .behind [','] [','] (fragmentsFrom_comma _ _ _ _ (by omega)) blankedStep
        (inductionHypothesis _ (inner + 1) _ (stop_grown reaches _) opened_plain)

/-! ### Where the two readers stop -/

theorem groupLength?_blankComments (rest : Text) :
    groupLength? (blankComments .plain ('(' :: rest)) =
      (closingLength? 0 none (blankComments .plain rest)).map (· + 1) := by
  rw [blankComments_open]
  rfl

/-- The reader of a table body stops exactly where the reader of an expression stops in the text
with its comments left blank. -/
theorem stopsAt_iff (rest : Text) (index : Nat) :
    StopsAt ('(' :: rest) index ↔
      groupLength? (blankComments .plain ('(' :: rest)) = some (index + 1) := by
  let begun : Progress := { offset := 1, reversed := [] }
  have fragments : split ('(' :: rest) = fragmentsFrom .plain 1 1 (some begun) rest :=
    fragmentsFrom_begin 0 rest
  have answers : StopsBehind 1 rest (split ('(' :: rest))
      (closingLength? 0 none (blankComments .plain rest)) :=
    fragments ▸ stopTogether_blankComments .plain rest 1 0 begun quotes_none rfl
  rw [groupLength?_blankComments]
  generalize closingLength? 0 none (blankComments .plain rest) = answer at answers
  cases answer with
  | some length =>
    obtain ⟨found, fragment, rfl, isLast, stop, closes⟩ := answers
    have parenthesis : ('(' :: rest)[fragment.stop]? = some ')' := by
      rw [stop, Nat.add_comm 1, List.getElem?_cons_succ, closes]
    constructor
    · rintro ⟨other, otherLast, rfl, _⟩
      have same : other = fragment := Option.some.inj (otherLast.symm.trans isLast)
      rw [same, stop, Nat.add_comm 1]
      rfl
    · intro equal
      have position : found + 1 + 1 = index + 1 := Option.some.inj equal
      have isIndex : fragment.stop = index := by omega
      exact ⟨fragment, isLast, isIndex, isIndex ▸ parenthesis⟩
  | none =>
    constructor
    · rintro ⟨fragment, isLast, rfl, closes⟩
      obtain ⟨found, stop, open_⟩ := answers fragment isLast
      rw [stop, Nat.add_comm 1, List.getElem?_cons_succ] at closes
      exact absurd closes open_
    · intro impossible
      cases impossible

/-! ### Texts without comments -/

/-- A text without comments stays as it is, and so does a parenthesis behind it. -/
theorem exists_blankComments (quote : Option Char) (inside rest : Text)
    (quotes : ∀ mark ∈ quote, isQuote mark = true) (quiet : opensComment quote inside = false) :
    ∃ blanked, blankComments (placeOf quote) (inside ++ ')' :: rest) =
      inside ++ ')' :: blanked := by
  -- Characters that stay as they are, in front of a text of which the same is known.
  have behind {place next : Place} {text : Text} (taken : Text)
      (step : blankComments place (taken ++ (text ++ ')' :: rest)) =
        taken ++ blankComments next (text ++ ')' :: rest))
      (further : ∃ blanked, blankComments next (text ++ ')' :: rest) = text ++ ')' :: blanked) :
      ∃ blanked, blankComments place (taken ++ text ++ ')' :: rest) =
        taken ++ text ++ ')' :: blanked := by
    obtain ⟨blanked, equal⟩ := further
    exact ⟨blanked, by rw [List.append_assoc, step, equal, List.append_assoc]⟩
  fun_induction opensComment quote inside with
  | case1 quote =>
    cases quote with
    | none => exact ⟨_, blankComments_plain ')' rest rfl rfl⟩
    | some quote => exact ⟨_, blankComments_quoted quote ')' rest rfl⟩
  | case2 quote character escaped =>
    exact ⟨_, blankComments_escape quote character ')' rest escaped⟩
  | case3 quote character escaped next after inductionHypothesis =>
    exact behind [character, next] (blankComments_escape _ _ _ _ escaped)
      (inductionHypothesis quotes quiet)
  | case4 quote unescaped =>
    have step := blankComments_quoted quote quote (')' :: rest) (Bool.eq_false_iff.mpr unescaped)
    rw [if_pos rfl, blankComments_plain ')' rest rfl rfl] at step
    exact ⟨_, step⟩
  | case5 quote after unescaped inductionHypothesis =>
    have step := blankComments_quoted quote quote (quote :: (after ++ ')' :: rest))
      (Bool.eq_false_iff.mpr unescaped)
    rw [if_pos rfl, blankComments_quote _ _ (quotes quote rfl)] at step
    exact behind [quote, quote] step (inductionHypothesis quotes quiet)
  | case6 quote next after unescaped other inductionHypothesis =>
    have step := blankComments_quoted quote quote (next :: after ++ ')' :: rest)
      (Bool.eq_false_iff.mpr unescaped)
    rw [if_pos rfl] at step
    exact behind [quote] step (inductionHypothesis quotes_none quiet)
  | case7 quote character inside unescaped other inductionHypothesis =>
    have step := blankComments_quoted quote character (inside ++ ')' :: rest)
      (Bool.eq_false_iff.mpr unescaped)
    rw [if_neg other] at step
    exact behind [character] step (inductionHypothesis quotes quiet)
  | case8 character inside inductionHypothesis =>
    obtain ⟨starts, opens⟩ := Bool.or_eq_false_iff.mp quiet
    by_cases isQuote : Nesting.isQuote character = true
    · rw [if_pos isQuote] at inductionHypothesis opens
      exact behind [character] (blankComments_quote _ _ isQuote)
        (inductionHypothesis (fun mark same => Option.some.inj same ▸ isQuote) opens)
    · rw [if_neg isQuote] at inductionHypothesis opens
      have quietToo := startsComment_append (character :: inside) rest ')' (by decide)
      exact behind [character]
        (blankComments_plain _ _ (Bool.eq_false_iff.mpr isQuote) (quietToo.trans starts))
        (inductionHypothesis quotes_none opens)

/-- Behind a text without comments the reader of a table body stops at a parenthesis exactly if the
text is balanced, that is, where the reader of an expression stops. -/
theorem stopsAt_iff_balanced (inside rest : Text) (quiet : opensComment none inside = false) :
    StopsAt ('(' :: (inside ++ ')' :: rest)) (inside.length + 1) ↔ Balanced inside := by
  obtain ⟨blanked, equal⟩ := exists_blankComments none inside rest quotes_none quiet
  rw [stopsAt_iff, groupLength?_blankComments]
  show (closingLength? 0 none (blankComments (placeOf none) _)).map _ = some _ ↔ _
  rw [equal]
  constructor
  · intro found
    obtain ⟨before, after, split, length, balanced⟩ :=
      exists_balanced _ _ (eq_some_of_map_add found)
    have same := List.append_inj split (Nat.succ.inj length).symm
    rwa [same.1]
  · intro balanced
    rw [balanced.closingLength? blanked]
    rfl

/-- The two readers agree on a text: the reader of an expression stops at the parenthesis at which
the reader of a table body stops, and nowhere where that reader comes to the end of the text. -/
def ReadersAgree (source : Text) : Prop :=
  (∀ index, StopsAt source index → groupLength? source = some (index + 1)) ∧
    ((∀ index, ¬ StopsAt source index) → groupLength? source = none)

/-- The two readers agree exactly if comments make no difference to the reader of an expression. -/
theorem readersAgree_iff (rest : Text) :
    ReadersAgree ('(' :: rest) ↔
      groupLength? ('(' :: rest) = groupLength? (blankComments .plain ('(' :: rest)) := by
  simp only [ReadersAgree, stopsAt_iff]
  rw [groupLength?_blankComments]
  cases closingLength? 0 none (blankComments .plain rest) <;> simp

/-- A closing parenthesis in a comment ends an expression too early, an opening one keeps it from
ending, and an expression ends in a comment that the body of its table does not come out of. -/
theorem not_readersAgree_comment :
    (StopsAt "(/*)*/)" 6 ∧ groupLength? "(/*)*/)" = some 4 ∧ ¬ ReadersAgree "(/*)*/)") ∧
    (StopsAt "(/*(*/)" 6 ∧ groupLength? "(/*(*/)" = none ∧ ¬ ReadersAgree "(/*(*/)") ∧
    ((∀ index, ¬ StopsAt "(#)" index) ∧ groupLength? "(#)" = some 3 ∧ ¬ ReadersAgree "(#)") := by
  have early : StopsAt "(/*)*/)" 6 := ⟨⟨"/*)*/", 1⟩, by decide +kernel, rfl, rfl⟩
  have tooEarly : groupLength? "(/*)*/)" = some 4 := by decide +kernel
  have late : StopsAt "(/*(*/)" 6 := ⟨⟨"/*(*/", 1⟩, by decide +kernel, rfl, rfl⟩
  have tooLate : groupLength? "(/*(*/)" = none := by decide +kernel
  have hidden : groupLength? (blankComments .plain ['(', '#', ')']) = none := by decide +kernel
  have never (index : Nat) : ¬ StopsAt "(#)" index := fun stops => by
    have found := (stopsAt_iff ['#', ')'] index).mp stops
    rw [hidden] at found
    cases found
  have inComment : groupLength? "(#)" = some 3 := by decide +kernel
  refine ⟨⟨early, tooEarly, fun agree => ?_⟩, ⟨late, tooLate, fun agree => ?_⟩,
    ⟨never, inComment, fun agree => ?_⟩⟩
  · have found := agree.1 6 early
    rw [tooEarly] at found
    cases found
  · have found := agree.1 6 late
    rw [tooLate] at found
    cases found
  · have found := agree.2 never
    rw [inComment] at found
    cases found

end TableBody

end DumpRestore
