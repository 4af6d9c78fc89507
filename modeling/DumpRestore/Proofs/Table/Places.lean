/-
This file says where a reader of SQL stands behind a text: in plain SQL, in a quoted stretch, or in
a comment. The place depends on the text alone. The reader of a table body stands there whatever its
position, its depth and the fragment in progress are, as long as the body does not end in the text.
A doubled quote counts as one that ends the stretch and one that opens it again, since nothing else
stands between them.
-/

import DumpRestore.Proofs.Table.Passing
import DumpRestore.Proofs.Table.Walk

namespace DumpRestore.TableBody

/-- The place of a reader behind a text. -/
def placeAfter : Place → Text → Place
  | place, [] => place
  | .quoted quote, character :: rest =>
    if Nesting.escapes quote character then
      match rest with
      | [] => .quoted quote
      | _ :: after => placeAfter (.quoted quote) after
    else placeAfter (if character = quote then .plain else .quoted quote) rest
  | .lineComment, character :: rest =>
    placeAfter (if character = '\n' then .plain else .lineComment) rest
  | .blockComment, character :: rest =>
    match rest with
    | [] => .blockComment
    | next :: after =>
      if character = '*' ∧ next = '/' then placeAfter .plain after
      else placeAfter .blockComment (next :: after)
  | .plain, character :: rest =>
    if Nesting.isQuote character then placeAfter (.quoted character) rest
    else if Nesting.startsComment (character :: rest) then
      match rest with
      | [] => .lineComment
      | next :: after =>
        if character = '/' then placeAfter .blockComment after
        else placeAfter .lineComment (next :: after)
    else placeAfter .plain rest

/-- Whether a place is one where SQL text is data or a remark: a string literal or a comment, but no
quoted identifier. -/
def Place.hides : Place → Bool
  | .plain => false
  | .quoted quote => quote != '\x60'
  | .lineComment => true
  | .blockComment => true

/-! ### Steps -/

theorem placeAfter_quote (quote : Char) (rest : Text) (opens : Nesting.isQuote quote = true) :
    placeAfter .plain (quote :: rest) = placeAfter (.quoted quote) rest := by
  rw [placeAfter.eq_def]
  exact if_pos opens

theorem placeAfter_plain (character : Char) (rest : Text)
    (plain : Nesting.isQuote character = false)
    (quiet : Nesting.startsComment (character :: rest) = false) :
    placeAfter .plain (character :: rest) = placeAfter .plain rest := by
  rw [placeAfter.eq_def]
  exact (if_neg (Bool.eq_false_iff.mp plain)).trans (if_neg (Bool.eq_false_iff.mp quiet))

/-- A quote is no word character. -/
theorem ne_of_isQuote (quote letter : Char) (opens : Nesting.isQuote quote = true)
    (inWord : Text.isWordChar letter = true) : letter ≠ quote := by
  simp only [Nesting.isQuote, Bool.or_eq_true, beq_iff_eq] at opens
  rcases opens with (rfl | rfl) | rfl <;> exact Text.ne_of_isWordChar _ letter rfl inWord

section Step

variable {place next : Place} {characters rest : Text}
  (step : Step place characters next rest)
  (quotes : ∀ quote, place = .quoted quote → Nesting.isQuote quote = true)

include step quotes

/-- A step leads to the place behind its characters. -/
theorem Step.placeAfter : placeAfter place (characters ++ rest) = placeAfter next rest := by
  rw [TableBody.placeAfter.eq_def]
  cases step with
  | escape quote character next rest escaped => exact if_pos escaped
  | doubled quote rest unescaped =>
    refine (if_neg (Bool.eq_false_iff.mp unescaped)).trans ?_
    rw [if_pos rfl]
    exact placeAfter_quote quote rest (quotes quote rfl)
  | unquote quote rest unescaped ends =>
    refine (if_neg (Bool.eq_false_iff.mp unescaped)).trans ?_
    rw [if_pos rfl]
    rfl
  | quoted quote character rest unescaped other =>
    refine (if_neg (Bool.eq_false_iff.mp unescaped)).trans ?_
    rw [if_neg other]
    rfl
  | lineComment character rest => rfl
  | blockEnd rest => rfl
  | blockComment character rest within =>
    cases rest with
    | nil => rw [TableBody.placeAfter]; rfl
    | cons next rest => exact if_neg fun ends => within ⟨ends.1, congrArg some ends.2⟩
  | quote character rest opens => exact if_pos opens
  | lineOpening character rest plain starts other =>
    refine (if_neg (Bool.eq_false_iff.mp plain)).trans ((if_pos starts).trans ?_)
    cases rest with
    | nil => rw [TableBody.placeAfter]; rfl
    | cons next rest => exact if_neg other
  | blockOpening rest => rfl
  | plain character rest plain notOpen notClose notComma quiet =>
    exact (if_neg (Bool.eq_false_iff.mp plain)).trans (if_neg (Bool.eq_false_iff.mp quiet))

/-- A step does not depend on a word character behind the text, and on what follows it. -/
theorem Step.append (letter : Char) (after : Text) (inWord : Text.isWordChar letter = true) :
    Step place characters next (rest ++ letter :: after) := by
  have other (mark : Char) (gap : Text.isWordChar mark = false) : letter ≠ mark :=
    Text.ne_of_isWordChar mark letter gap inWord
  have startsToo (text : Text) :
      Nesting.startsComment (text ++ letter :: after) = Nesting.startsComment text := by
    refine Nesting.startsComment_append text after letter ?_
    simp only [List.mem_cons, List.not_mem_nil, or_false, not_or]
    exact ⟨other '#' rfl, other '/' rfl, other '*' rfl, other '-' rfl, other ' ' rfl⟩
  cases step with
  | escape quote character next rest escaped => exact .escape _ _ _ _ escaped
  | doubled quote rest unescaped => exact .doubled _ _ unescaped
  | unquote quote rest unescaped ends =>
    refine .unquote _ _ unescaped ?_
    cases rest with
    | nil =>
      have noQuote := ne_of_isQuote quote letter (quotes quote rfl) inWord
      exact fun same => noQuote (Option.some.inj same)
    | cons next rest => exact ends
  | quoted quote character rest unescaped other => exact .quoted _ _ _ unescaped other
  | lineComment character rest => exact .lineComment _ _
  | blockEnd rest => exact .blockEnd _
  | blockComment character rest within =>
    refine .blockComment _ _ ?_
    cases rest with
    | nil => exact fun ends => other '/' rfl (Option.some.inj ends.2)
    | cons next rest => exact within
  | quote character rest opens => exact .quote _ _ opens
  | lineOpening character rest plain starts other =>
    exact .lineOpening _ _ plain ((startsToo (character :: rest)).trans starts) other
  | blockOpening rest => exact .blockOpening _
  | plain character rest plain notOpen notClose notComma quiet =>
    exact .plain _ _ plain notOpen notClose notComma ((startsToo (character :: rest)).trans quiet)

end Step

/-- Steps lead to the place behind their text. -/
theorem Steps.placeAfter {place next : Place} {text rest : Text}
    (steps : Steps place text next rest)
    (quotes : ∀ quote, place = .quoted quote → Nesting.isQuote quote = true) :
    placeAfter place (text ++ rest) = placeAfter next rest := by
  induction steps with
  | stay place rest => rfl
  | step place middle next characters text rest step _ inductionHypothesis =>
    rw [List.append_assoc, step.placeAfter quotes]
    exact inductionHypothesis (step.opened quotes)

/-! ### The reader of a table body -/

/-- A reader within a body stands at a place behind a text, at some depth, with the text taken into
the fragment in progress. -/
def Arrives (place : Place) (position : Nat) (depth : Int) (current : Progress) (text : Text)
    (next : Place) (rest : Text) : Prop :=
  ∃ inner, fragmentsFrom place position depth (some current) (text ++ rest) =
    fragmentsFrom next (position + text.length) inner (some (current.grown text)) rest

theorem Arrives.behind {place middle next : Place} {position : Nat} {depth inner : Int}
    {current : Progress} {rest : Text} (first second : Text)
    (step : fragmentsFrom place position depth (some current) (first ++ (second ++ rest)) =
      fragmentsFrom middle (position + first.length) inner (some (current.grown first))
        (second ++ rest))
    (further : Arrives middle (position + first.length) inner (current.grown first) second next
      rest) :
    Arrives place position depth current (first ++ second) next rest := by
  have joined := taken_append first second (some current)
  obtain ⟨outer, further⟩ := further
  refine ⟨outer, ?_⟩
  rw [List.append_assoc, step, further, List.length_append, Nat.add_assoc]
  exact congrArg (fragmentsFrom next _ outer · rest) joined.symm

theorem arrives_nil (place : Place) (position : Nat) (depth : Int) (current : Progress)
    (rest : Text) : Arrives place position depth current [] place rest :=
  ⟨depth, rfl⟩

/-- Behind a text that a word character follows, the reader stands at the place that the text leads
to, if there are more open parentheses around it than the text could close. -/
theorem arrives_placeAfter (place : Place) (text : Text) (position : Nat) (depth : Int)
    (current : Progress) (letter : Char) (after : Text)
    (inWord : Text.isWordChar letter = true)
    (quotes : ∀ quote, place = .quoted quote → Nesting.isQuote quote = true)
    (deep : (text.length : Int) + 1 < depth) :
    Arrives place position depth current text (placeAfter place text) (letter :: after) := by
  -- The induction is on the way over the text. Only the marks change the depth, and none of them
  -- comes to the depth at which the body ends.
  induction walk place text generalizing position depth current with
  | finish place =>
    rw [placeAfter.eq_def]
    exact arrives_nil place position depth current _
  | cutOff quote character escaped =>
    -- The word character is the escaped one, which makes no difference to it.
    have notEscape : Nesting.escapes quote letter = false := by
      simp [Nesting.escapes, Text.ne_of_isWordChar '\\' letter rfl inWord]
    have notQuote := ne_of_isQuote quote letter (quotes quote rfl) inWord
    have stays : placeAfter (.quoted quote) [character] = .quoted quote := by
      rw [placeAfter.eq_def]
      exact if_pos escaped
    refine ⟨depth, ?_⟩
    rw [stays, List.singleton_append, fragmentsFrom_escape _ _ _ _ _ _ _ escaped,
      fragmentsFrom_quoted _ _ _ _ _ _ notEscape notQuote]
    rfl
  | step place next characters rest step _ inductionHypothesis =>
    rw [List.length_append, Int.natCast_add] at deep
    rw [step.placeAfter quotes]
    exact .behind characters rest ((step.append quotes letter after inWord).fragmentsFrom _ _ _)
      (inductionHypothesis _ depth _ (step.opened quotes) (by omega))
  | opening rest _ inductionHypothesis =>
    rw [List.length_cons, Int.natCast_add] at deep
    rw [placeAfter_plain '(' rest rfl rfl]
    exact .behind ['('] rest (fragmentsFrom_open _ _ _ _)
      (inductionHypothesis _ (depth + 1) _ opened_plain (by omega))
  | closing rest _ inductionHypothesis =>
    rw [List.length_cons, Int.natCast_add] at deep
    rw [placeAfter_plain ')' rest rfl rfl]
    exact .behind [')'] rest (fragmentsFrom_close _ _ _ _ (by omega))
      (inductionHypothesis _ (depth - 1) _ opened_plain (by omega))
  | comma rest _ inductionHypothesis =>
    rw [List.length_cons, Int.natCast_add] at deep
    rw [placeAfter_plain ',' rest rfl rfl]
    exact .behind [','] rest (fragmentsFrom_comma _ _ _ _ (by omega))
      (inductionHypothesis _ depth _ opened_plain (by omega))

end DumpRestore.TableBody
