/-
This file divides the way of a reader over SQL into steps. Most steps are the same for every reader:
they lead through quoted stretches and comments, or over a character of no account, and a reader of
a table body takes them at whatever depth it is. Only parentheses and commas in plain SQL are left
to each of the readers. A proof about a reader thus has one case for all the steps that it has in
common with the others, and one for each of these marks. A comment is gone through by common steps
alone.
-/

import DumpRestore.Proofs.Table.Steps

namespace DumpRestore.TableBody

open Nesting

/-! ### Steps that all readers have in common -/

/-- Characters that a reader of SQL takes at once on its way from one place to another, and the text
behind them. No parenthesis and no comma in plain SQL is among them. -/
inductive Step : (place : Place) → (characters : Text) → (next : Place) → (rest : Text) → Prop
  | escape (quote character next : Char) (rest : Text) (escaped : escapes quote character = true) :
    Step (.quoted quote) [character, next] (.quoted quote) rest
  | doubled (quote : Char) (rest : Text) (unescaped : escapes quote quote = false) :
    Step (.quoted quote) [quote, quote] (.quoted quote) rest
  | unquote (quote : Char) (rest : Text) (unescaped : escapes quote quote = false)
    (ends : rest.head? ≠ some quote) :
    Step (.quoted quote) [quote] .plain rest
  | quoted (quote character : Char) (rest : Text) (unescaped : escapes quote character = false)
    (other : character ≠ quote) :
    Step (.quoted quote) [character] (.quoted quote) rest
  | lineComment (character : Char) (rest : Text) :
    Step .lineComment [character] (if character = '\n' then .plain else .lineComment) rest
  | blockEnd (rest : Text) : Step .blockComment ['*', '/'] .plain rest
  | blockComment (character : Char) (rest : Text)
    (within : ¬ (character = '*' ∧ rest.head? = some '/')) :
    Step .blockComment [character] .blockComment rest
  | quote (character : Char) (rest : Text) (opens : isQuote character = true) :
    Step .plain [character] (.quoted character) rest
  | lineOpening (character : Char) (rest : Text) (plain : isQuote character = false)
    (starts : startsComment (character :: rest) = true) (other : character ≠ '/') :
    Step .plain [character] .lineComment rest
  | blockOpening (rest : Text) : Step .plain ['/', '*'] .blockComment rest
  | plain (character : Char) (rest : Text) (plain : isQuote character = false)
    (notOpen : character ≠ '(') (notClose : character ≠ ')') (notComma : character ≠ ',')
    (quiet : startsComment (character :: rest) = false) :
    Step .plain [character] .plain rest

section Step

variable {place next : Place} {characters rest : Text}

/-- A reader of a table body takes such a step at any depth. -/
theorem Step.fragmentsFrom (step : Step place characters next rest) (position : Nat) (depth : Int)
    (progress : Option Progress) :
    fragmentsFrom place position depth progress (characters ++ rest) =
      fragmentsFrom next (position + characters.length) depth (taken characters progress) rest := by
  cases step with
  | escape quote character next rest escaped => exact fragmentsFrom_escape _ _ _ _ _ _ _ escaped
  | doubled quote rest unescaped => exact fragmentsFrom_doubled _ _ _ _ _ unescaped
  | unquote quote rest unescaped ends => exact fragmentsFrom_unquote _ _ _ _ _ unescaped ends
  | quoted quote character rest unescaped other =>
    exact fragmentsFrom_quoted _ _ _ _ _ _ unescaped other
  | lineComment character rest => exact fragmentsFrom_lineComment _ _ _ _ _
  | blockEnd rest => exact fragmentsFrom_blockEnd _ _ _ _
  | blockComment character rest within => exact fragmentsFrom_blockComment _ _ _ _ _ within
  | quote character rest opens => exact fragmentsFrom_quote _ _ _ _ _ opens
  | lineOpening character rest plain starts other =>
    exact fragmentsFrom_lineOpening _ _ _ _ _ starts other
  | blockOpening rest => exact fragmentsFrom_blockOpening _ _ _ _
  | plain character rest plain notOpen notClose notComma quiet =>
    exact fragmentsFrom_plain _ _ _ _ _ plain notOpen notClose notComma quiet

/-- Only a quote opens a quoted stretch. -/
theorem Step.opened (step : Step place characters next rest)
    (quotes : ∀ quote, place = .quoted quote → isQuote quote = true) (quote : Char)
    (inside : next = .quoted quote) : isQuote quote = true := by
  cases step with
  | escape | doubled | quoted => exact quotes quote inside
  | quote character rest opens =>
    cases inside
    exact opens
  | lineComment => split at inside <;> cases inside
  | unquote | blockEnd | blockComment | lineOpening | blockOpening | plain => cases inside

end Step

theorem opened_plain (quote : Char) (inside : Place.plain = .quoted quote) :
    isQuote quote = true := by
  cases inside

/-! ### Steps one after the other -/

/-- Steps over a text, one after the other, and the text behind them. -/
inductive Steps : (place : Place) → (text : Text) → (next : Place) → (rest : Text) → Prop
  | stay (place : Place) (rest : Text) : Steps place [] place rest
  | step (place middle next : Place) (characters text rest : Text)
    (step : Step place characters middle (text ++ rest)) (further : Steps middle text next rest) :
    Steps place (characters ++ text) next rest

namespace Steps

variable {place middle next : Place} {text rest : Text}

theorem take {character : Char} (step : Step place [character] middle (text ++ rest))
    (further : Steps middle text next rest) : Steps place (character :: text) next rest :=
  .step _ _ _ _ _ _ step further

theorem take_two {character second : Char}
    (step : Step place [character, second] middle (text ++ rest))
    (further : Steps middle text next rest) :
    Steps place (character :: second :: text) next rest :=
  .step _ _ _ _ _ _ step further

theorem append {second : Text} (steps : Steps place text middle (second ++ rest))
    (further : Steps middle second next rest) : Steps place (text ++ second) next rest := by
  generalize behind : second ++ rest = after at steps
  induction steps with
  | stay place after => exact further
  | step place inner middle characters text after step _ inductionHypothesis =>
    subst behind
    rw [List.append_assoc]
    refine .step _ _ _ _ _ _ ?_ (inductionHypothesis further rfl)
    rwa [List.append_assoc]

/-- A reader of a table body takes such steps at any depth. -/
theorem fragmentsFrom (steps : Steps place text next rest) (position : Nat) (depth : Int)
    (progress : Option Progress) :
    fragmentsFrom place position depth progress (text ++ rest) =
      fragmentsFrom next (position + text.length) depth (taken text progress) rest := by
  induction steps generalizing position progress with
  | stay place rest => cases progress <;> rfl
  | step place middle next characters text rest step _ inductionHypothesis =>
    rw [List.append_assoc, step.fragmentsFrom, inductionHypothesis, taken_append,
      List.length_append, Nat.add_assoc]

end Steps

/-- A comment between slash-star and star-slash goes on where no star-slash ends it. -/
theorem steps_blockComment (text rest : Text) (unclosed : ¬ ['*', '/'] <:+: text)
    (goesOn : rest.head? ≠ some '/') : Steps .blockComment text .blockComment rest := by
  induction text with
  | nil => exact .stay _ _
  | cons character text inductionHypothesis =>
    have further := inductionHypothesis fun inside => unclosed (List.infix_cons inside)
    refine .take (.blockComment character (text ++ rest) ?_) further
    rintro ⟨rfl, slash⟩
    cases text with
    | nil => exact goesOn slash
    | cons next text =>
      cases slash
      exact unclosed ⟨[], text, rfl⟩

/-- A comment up to the end of a line goes on within the line. -/
theorem steps_lineComment (text rest : Text) (oneLine : '\n' ∉ text) :
    Steps .lineComment text .lineComment rest := by
  induction text with
  | nil => exact .stay _ _
  | cons character text inductionHypothesis =>
    have other : character ≠ '\n' := fun same => oneLine (same ▸ List.mem_cons_self)
    have step := Step.lineComment character (text ++ rest)
    rw [if_neg other] at step
    exact .take step (inductionHypothesis fun member => oneLine (List.mem_cons_of_mem _ member))

/-! ### The way over a text -/

/-- The way of a reader over a text, from a place on. It may end with a character that escapes the
next one where there is none. -/
inductive Walk : Place → Text → Prop
  | finish (place : Place) : Walk place []
  | cutOff (quote character : Char) (escaped : escapes quote character = true) :
    Walk (.quoted quote) [character]
  | step (place next : Place) (characters rest : Text) (step : Step place characters next rest)
    (further : Walk next rest) :
    Walk place (characters ++ rest)
  | opening (rest : Text) (further : Walk .plain rest) : Walk .plain ('(' :: rest)
  | closing (rest : Text) (further : Walk .plain rest) : Walk .plain (')' :: rest)
  | comma (rest : Text) (further : Walk .plain rest) : Walk .plain (',' :: rest)

/-- There are such ways over all texts that are shorter than a bound. -/
def WalksBelow (bound : Nat) : Prop :=
  ∀ (place : Place) (text : Text), text.length < bound → Walk place text

namespace WalksBelow

variable {character : Char} {rest : Text} {place next : Place}

theorem take (below : WalksBelow (character :: rest).length)
    (step : Step place [character] next rest) : Walk place (character :: rest) :=
  .step _ _ _ _ step (below next rest (Nat.lt_succ_self _))

theorem take_two {second : Char} (below : WalksBelow (character :: second :: rest).length)
    (step : Step place [character, second] next rest) : Walk place (character :: second :: rest) :=
  .step _ _ _ _ step (below next rest (Nat.lt_succ_of_le (Nat.le_succ _)))

theorem quoted (below : WalksBelow (character :: rest).length) (quote : Char) :
    Walk (.quoted quote) (character :: rest) := by
  by_cases escaped : escapes quote character = true
  · cases rest with
    | nil => exact .cutOff quote character escaped
    | cons next rest => exact below.take_two (.escape _ _ _ _ escaped)
  have unescaped := Bool.eq_false_iff.mpr escaped
  by_cases same : character = quote
  · subst same
    by_cases again : rest.head? = some character
    · obtain ⟨after, rfl⟩ := List.head?_eq_some_iff.mp again
      exact below.take_two (.doubled _ _ unescaped)
    · exact below.take (.unquote _ _ unescaped again)
  · exact below.take (.quoted _ _ _ unescaped same)

theorem blockComment (below : WalksBelow (character :: rest).length) :
    Walk .blockComment (character :: rest) := by
  by_cases ends : character = '*' ∧ rest.head? = some '/'
  · obtain ⟨rfl, slash⟩ := ends
    obtain ⟨after, rfl⟩ := List.head?_eq_some_iff.mp slash
    exact below.take_two (.blockEnd _)
  · exact below.take (.blockComment _ _ ends)

theorem plain (below : WalksBelow (character :: rest).length) :
    Walk .plain (character :: rest) := by
  have further : Walk .plain rest := below _ rest (Nat.lt_succ_self _)
  by_cases opens : isQuote character = true
  · exact below.take (.quote _ _ opens)
  have notQuote := Bool.eq_false_iff.mpr opens
  by_cases starts : startsComment (character :: rest) = true
  · by_cases slash : character = '/'
    · subst slash
      have star : rest.head? = some '*' := by simpa [startsComment] using starts
      obtain ⟨after, rfl⟩ := List.head?_eq_some_iff.mp star
      exact below.take_two (.blockOpening _)
    · exact below.take (.lineOpening _ _ notQuote starts slash)
  by_cases isOpen : character = '('
  · exact isOpen ▸ .opening rest further
  by_cases isClose : character = ')'
  · exact isClose ▸ .closing rest further
  by_cases isComma : character = ','
  · exact isComma ▸ .comma rest further
  · exact below.take
      (.plain _ _ notQuote isOpen isClose isComma (Bool.eq_false_iff.mpr starts))

end WalksBelow

/-- A reader has such a way over every text, from every place. -/
theorem walk (place : Place) (text : Text) : Walk place text := by
  -- The induction is on the length: some of the steps take two characters at once.
  induction length : text.length using Nat.strongRecOn generalizing place text with
  | ind bound inductionHypothesis =>
    subst length
    have below : WalksBelow text.length := fun place rest shorter =>
      inductionHypothesis rest.length shorter place rest rfl
    cases text with
    | nil => exact .finish place
    | cons character rest =>
      cases place with
      | quoted quote => exact below.quoted quote
      | lineComment => exact below.take (.lineComment character rest)
      | blockComment => exact below.blockComment
      | plain => exact below.plain

end DumpRestore.TableBody
