/-
This file proves that the head and the expression of a generated column are found again where their
blanks are squeezed and a space is put between them. A data type ends at the first place where an
expression may open; the run that leads there is told apart from the opening itself, so that blanks
can be squeezed in either, and so that the text behind the opening can be replaced.
-/

import DumpRestore.Proofs.Column.Head
import DumpRestore.Proofs.Column.Nesting
import DumpRestore.Proofs.Text.Respacing

namespace DumpRestore

namespace Head

/-! ### The opening of an expression -/

theorem afterAs?_eq (text : Text) :
    afterAs? text = (Text.keyword? "as" text).bind fun rest =>
      if (Text.skipBlanks rest).head? = some '(' then some (Text.skipBlanks rest).tail
      else none := by
  refine congrArg _ (funext fun rest => ?_)
  split
  · rename_i after equal
    rw [equal, List.head?_cons, if_pos rfl, List.tail_cons]
  · rename_i other
    rw [if_neg]
    intro starts
    obtain ⟨after, equal⟩ := List.head?_eq_some_iff.mp starts
    exact other after equal

theorem afterAs?_squeeze (text : Text) :
    afterAs? (Text.squeeze text) = (afterAs? text).map Text.squeeze := by
  rw [afterAs?_eq, afterAs?_eq, Text.keyword?_squeeze "as" text rfl]
  cases Text.keyword? "as" text with
  | none => rfl
  | some rest =>
    rw [Option.map_some, Option.bind_some, Option.bind_some, Text.skipBlanks_squeeze]
    have starts := Text.startsBlank_skipBlanks rest
    generalize Text.skipBlanks rest = further at starts ⊢
    cases further with
    | nil => rfl
    | cons character after =>
      rw [Text.squeeze_cons_visible character after starts, List.head?_cons, List.head?_cons,
        List.tail_cons, List.tail_cons]
      split <;> rfl

/-- Where an expression opens is the same in a squeezed text. -/
theorem afterOpening?_squeeze (text : Text) :
    afterOpening? (Text.squeeze text) = (afterOpening? text).map Text.squeeze := by
  have generated : ((Text.keyword? "generated" (Text.squeeze text)).bind fun rest =>
      (Text.keyword? "always" (Text.skipBlanks rest)).bind fun rest =>
        afterAs? (Text.skipBlanks rest)) =
      ((Text.keyword? "generated" text).bind fun rest =>
        (Text.keyword? "always" (Text.skipBlanks rest)).bind fun rest =>
          afterAs? (Text.skipBlanks rest)).map Text.squeeze := by
    rw [Text.keyword?_squeeze "generated" text rfl]
    cases Text.keyword? "generated" text with
    | none => rfl
    | some rest =>
      rw [Option.map_some, Option.bind_some, Option.bind_some, Text.skipBlanks_squeeze,
        Text.keyword?_squeeze "always" _ rfl]
      cases Text.keyword? "always" (Text.skipBlanks rest) with
      | none => rfl
      | some rest =>
        rw [Option.map_some, Option.bind_some, Option.bind_some, Text.skipBlanks_squeeze,
          afterAs?_squeeze]
  unfold afterOpening?
  dsimp only
  rw [generated]
  cases (Text.keyword? "generated" text).bind _ with
  | none => exact afterAs?_squeeze text
  | some after => rfl

section Mark

variable (mark : Char) (gap : Text.isWordChar mark = false) (visible : Text.isBlank mark = false)

include gap visible

theorem afterAs?_append_cons (text rest : Text) :
    afterAs? (text ++ mark :: rest) = (afterAs? (text ++ [mark])).map (· ++ rest) := by
  rw [afterAs?_eq, afterAs?_eq,
    Text.keyword?_append "as" text (mark :: rest) rfl (Text.endsWord_cons mark rest gap),
    Text.keyword?_append "as" text [mark] rfl (Text.endsWord_cons mark [] gap)]
  cases Text.keyword? "as" text with
  | none => rfl
  | some further =>
    rw [Option.map_some, Option.map_some, Option.bind_some, Option.bind_some,
      Text.skipBlanks_append_cons further rest mark visible,
      Text.skipBlanks_append_cons further [] mark visible]
    cases Text.skipBlanks further with
    | nil =>
      rw [List.nil_append, List.nil_append, List.head?_cons, List.head?_cons, List.tail_cons,
        List.tail_cons]
      split <;> rfl
    | cons character after =>
      rw [List.cons_append, List.cons_append, List.head?_cons, List.head?_cons, List.tail_cons,
        List.tail_cons, List.append_cons]
      split <;> rfl

/-- Whether an expression opens in front of a mark does not depend on what follows the mark. -/
theorem afterOpening?_append_cons (text rest : Text) :
    afterOpening? (text ++ mark :: rest) =
      (afterOpening? (text ++ [mark])).map (· ++ rest) := by
  have ends := Text.endsWord_cons mark rest gap
  have endsAlone := Text.endsWord_cons mark [] gap
  have generated : ((Text.keyword? "generated" (text ++ mark :: rest)).bind fun rest =>
      (Text.keyword? "always" (Text.skipBlanks rest)).bind fun rest =>
        afterAs? (Text.skipBlanks rest)) =
      ((Text.keyword? "generated" (text ++ [mark])).bind fun rest =>
        (Text.keyword? "always" (Text.skipBlanks rest)).bind fun rest =>
          afterAs? (Text.skipBlanks rest)).map (· ++ rest) := by
    rw [Text.keyword?_append "generated" text _ rfl ends,
      Text.keyword?_append "generated" text _ rfl endsAlone]
    cases Text.keyword? "generated" text with
    | none => rfl
    | some further =>
      rw [Option.map_some, Option.map_some, Option.bind_some, Option.bind_some,
        Text.skipBlanks_append_cons further rest mark visible,
        Text.skipBlanks_append_cons further [] mark visible,
        Text.keyword?_append "always" _ _ rfl ends, Text.keyword?_append "always" _ _ rfl endsAlone]
      cases Text.keyword? "always" (Text.skipBlanks further) with
      | none => rfl
      | some last =>
        rw [Option.map_some, Option.map_some, Option.bind_some, Option.bind_some,
          Text.skipBlanks_append_cons last rest mark visible,
          Text.skipBlanks_append_cons last [] mark visible,
          afterAs?_append_cons mark gap visible (Text.skipBlanks last) rest]
  unfold afterOpening?
  dsimp only
  rw [generated]
  cases (Text.keyword? "generated" (text ++ [mark])).bind _ with
  | none => exact afterAs?_append_cons mark gap visible text rest
  | some after => rfl

end Mark

/-! ### The way through a data type -/

/-- Whether a parenthesis is open behind a character of a data type, and whether the data type may
end there; none where the character ends the search. -/
def stateAfter? (inList : Bool) (character : Char) : Option (Bool × Bool) :=
  if inList then
    if character = '(' then none else if character = ')' then some (false, true)
    else some (true, false)
  else if character = '(' then some (true, false)
  else if endsType character then none
  else some (false, !Text.isWordChar character)

/-- Whether a data type leads up to a rest where an expression may open and opens nowhere before. -/
def Reaches : (inList mayEnd : Bool) → (dataType rest : Text) → Prop
  | _, mayEnd, [], _ => mayEnd = true
  | inList, mayEnd, character :: dataType, rest =>
    (mayEnd = true → afterOpening? (character :: dataType ++ rest) = none) ∧
      ∃ next, stateAfter? inList character = some next ∧ Reaches next.1 next.2 dataType rest

theorem splitType?_cons_of_closed (inList mayEnd : Bool) (character : Char) (rest : Text)
    (closed : mayEnd = true → afterOpening? (character :: rest) = none) :
    splitType? inList mayEnd (character :: rest) = (stateAfter? inList character).bind fun next =>
      (splitType? next.1 next.2 rest).map fun (dataType, opening, after) =>
        (character :: dataType, opening, after) := by
  have none : (if mayEnd then afterOpening? (character :: rest) else none) = none := by
    cases mayEnd with
    | false => rfl
    | true => exact closed rfl
  rw [splitType?, none, stateAfter?]
  cases inList with
  | true =>
    dsimp only
    rw [if_pos rfl, if_pos rfl]
    split
    · rfl
    · split <;> rfl
  | false =>
    dsimp only
    rw [if_neg Bool.false_ne_true, if_neg Bool.false_ne_true]
    split
    · rfl
    · split <;> rfl

/-- A text is split where a data type leads up to an opening. -/
theorem splitType?_of_reaches (inList mayEnd : Bool) (dataType opening after : Text)
    (reaches : Reaches inList mayEnd dataType (opening ++ after))
    (opens : afterOpening? (opening ++ after) = some after) :
    splitType? inList mayEnd (dataType ++ (opening ++ after)) =
      some (dataType, opening, after) := by
  induction dataType generalizing inList mayEnd with
  | nil =>
    have allowed : mayEnd = true := reaches
    have taken : (opening ++ after).take ((opening ++ after).length - after.length) = opening := by
      rw [List.length_append, Nat.add_sub_cancel, List.take_left]
    rw [List.nil_append]
    cases equal : opening ++ after with
    | nil => rw [equal] at opens; cases opens
    | cons character rest =>
      rw [equal] at opens taken
      rw [splitType?, if_pos allowed, opens]
      dsimp only
      rw [taken]
  | cons character dataType inductionHypothesis =>
    obtain ⟨closed, next, state, further⟩ := reaches
    rw [List.cons_append,
      splitType?_cons_of_closed inList mayEnd character (dataType ++ (opening ++ after)) closed,
      state, Option.bind_some,
      inductionHypothesis next.1 next.2 further]
    rfl

theorem reaches_of_splitType? (inList mayEnd : Bool) (dataType opening after : Text)
    (read : splitType? inList mayEnd (dataType ++ (opening ++ after)) =
      some (dataType, opening, after)) : Reaches inList mayEnd dataType (opening ++ after) := by
  induction dataType generalizing inList mayEnd with
  | nil => exact (splitType?_eq_some inList mayEnd _ _ _ _ read).2.2
  | cons character dataType inductionHypothesis =>
    have closed : mayEnd = true →
        afterOpening? (character :: dataType ++ (opening ++ after)) = none := by
      intro allowed
      cases opens : afterOpening? (character :: dataType ++ (opening ++ after)) with
      | none => rfl
      | some found =>
        rw [List.cons_append] at opens read
        rw [splitType?, if_pos allowed, opens] at read
        cases read
    refine ⟨closed, ?_⟩
    rw [List.cons_append,
      splitType?_cons_of_closed inList mayEnd character (dataType ++ (opening ++ after)) closed] at read
    obtain ⟨next, state, further⟩ := Option.bind_eq_some_iff.mp read
    obtain ⟨_, found, equal⟩ := Option.map_eq_some_iff.mp further
    cases equal
    exact ⟨next, state, inductionHypothesis next.1 next.2 found⟩

/-- A data type ends outside parentheses. -/
theorem outside_of_stateAfter? (inList nextInList : Bool) (character : Char)
    (state : stateAfter? inList character = some (nextInList, true)) : nextInList = false := by
  unfold stateAfter? at state
  split at state
  · split at state
    · cases state
    · split at state <;> cases state
      rfl
  · split at state
    · cases state
    · split at state
      · cases state
      · exact (congrArg Prod.fst (Option.some.inj state)).symm

theorem stateAfter?_blank (inList : Bool) (character : Char)
    (blank : Text.isBlank character = true) :
    stateAfter? inList character = some (inList, !inList) := by
  have other (mark : Char) (visible : Text.isBlank mark = false) : character ≠ mark :=
    Text.ne_of_isBlank mark character visible blank
  have continues : endsType character = false := by
    simp only [endsType, Bool.or_eq_false_iff, beq_eq_false_iff_ne]
    exact ⟨⟨⟨other ',' rfl, other '\'' rfl⟩, other '"' rfl⟩, other ')' rfl⟩
  rw [stateAfter?, if_neg (other '(' rfl), if_neg (other '(' rfl), if_neg (other ')' rfl),
    continues,
    Text.isWordChar_of_isBlank character blank]
  cases inList <;> rfl

/-- A data type goes on with a blank, whatever stood before. -/
theorem reaches_cons_blank (inList mayEnd : Bool) (character : Char) (dataType rest : Text)
    (blank : Text.isBlank character = true) :
    Reaches inList mayEnd (character :: dataType) rest ↔
      Reaches inList (!inList) dataType rest := by
  have closed : afterOpening? (character :: dataType ++ rest) = none :=
    afterOpening?_of_endsWord _ (Text.endsWord_cons _ _ (Text.isWordChar_of_isBlank _ blank))
  rw [Reaches, stateAfter?_blank inList character blank]
  constructor
  · rintro ⟨_, next, state, further⟩
    cases state
    exact further
  · intro further
    exact ⟨fun _ => closed, _, rfl, further⟩

/-- Blanks of the data type and of the rest may be squeezed. -/
theorem Reaches.squeeze {inList mayEnd : Bool} {dataType rest : Text}
    (reaches : Reaches inList mayEnd dataType rest) (starts : Text.startsBlank rest = false) :
    Reaches inList mayEnd (Text.squeeze dataType) (Text.squeeze rest) := by
  induction dataType generalizing inList mayEnd with
  | nil => exact reaches
  | cons character dataType inductionHypothesis =>
    cases blank : Text.isBlank character with
    | true =>
      have further := inductionHypothesis
        ((reaches_cons_blank inList mayEnd character dataType rest blank).mp reaches)
      cases continues : Text.startsBlank dataType with
      | true =>
        rw [Text.squeeze_cons_blanks character dataType blank continues]
        rw [Text.squeeze_of_startsBlank dataType continues] at further ⊢
        exact (reaches_cons_blank inList mayEnd ' ' _ _ rfl).mpr
          ((reaches_cons_blank inList _ ' ' _ _ rfl).mp further)
      | false =>
        rw [Text.squeeze_cons_blank character dataType blank continues]
        exact (reaches_cons_blank inList mayEnd ' ' _ _ rfl).mpr further
    | false =>
      obtain ⟨closed, next, state, further⟩ := reaches
      have joined := Text.squeeze_append_of_startsVisible (character :: dataType) rest starts
      rw [Text.squeeze_cons_visible character dataType blank] at joined ⊢
      refine ⟨fun allowed => ?_, next, state, inductionHypothesis further⟩
      rw [← joined, afterOpening?_squeeze, closed allowed]
      rfl

/-- Behind a mark that ends a data type there may be a space. -/
theorem Reaches.space {inList mayEnd : Bool} {dataType rest : Text} {mark : Char}
    (gap : Text.isWordChar mark = false) (visible : Text.isBlank mark = false)
    (reaches : Reaches inList mayEnd (dataType ++ [mark]) rest) :
    Reaches inList mayEnd (dataType ++ [mark] ++ [' ']) rest := by
  have closed (text : Text) (opens : afterOpening? (text ++ [mark] ++ rest) = none) :
      afterOpening? (text ++ [mark] ++ [' '] ++ rest) = none := by
    rw [List.append_assoc, List.singleton_append, afterOpening?_append_cons mark gap visible,
      Option.map_eq_none_iff] at opens
    rw [List.append_assoc (text ++ [mark]), List.append_assoc, List.singleton_append,
      afterOpening?_append_cons mark gap visible, opens]
    rfl
  induction dataType generalizing inList mayEnd with
  | nil =>
    obtain ⟨opens, ⟨nextInList, nextMayEnd⟩, state, allowed⟩ := reaches
    have ends : nextMayEnd = true := allowed
    subst ends
    have outside := outside_of_stateAfter? inList nextInList mark state
    subst outside
    exact ⟨fun mayOpen => closed [] (opens mayOpen), _, state,
      (reaches_cons_blank false true ' ' [] rest rfl).mpr rfl⟩
  | cons character dataType inductionHypothesis =>
    obtain ⟨opens, next, state, further⟩ := reaches
    exact ⟨fun mayOpen => closed (character :: dataType) (opens mayOpen), next, state,
      inductionHypothesis further⟩

/-- What stands behind the parenthesis that opens an expression may be anything. -/
theorem Reaches.replace {inList mayEnd : Bool} {dataType opening after : Text}
    (reaches : Reaches inList mayEnd dataType (opening ++ '(' :: after)) (other : Text) :
    Reaches inList mayEnd dataType (opening ++ '(' :: other) := by
  induction dataType generalizing inList mayEnd with
  | nil => exact reaches
  | cons character dataType inductionHypothesis =>
    obtain ⟨closed, next, state, further⟩ := reaches
    refine ⟨fun allowed => ?_, next, state, inductionHypothesis further⟩
    have none := closed allowed
    rw [← List.append_assoc, afterOpening?_append_cons '(' rfl rfl, Option.map_eq_none_iff] at none
    rw [← List.append_assoc, afterOpening?_append_cons '(' rfl rfl, none]
    rfl

/-! ### The head -/

theorem startsVisible_of_opens (text after : Text) (opens : afterOpening? text = some after) :
    Text.startsBlank text = false := by
  cases text with
  | nil => rfl
  | cons character rest =>
    cases blank : Text.isBlank character with
    | false => exact blank
    | true =>
      rw [afterOpening?_of_endsWord _
        (Text.endsWord_cons _ rest (Text.isWordChar_of_isBlank character blank))] at opens
      cases opens

/-- A data type that leads up to an opening does so with its blanks squeezed and a space behind
it. -/
theorem Reaches.respaced {dataType rest : Text} (reaches : Reaches false false dataType rest)
    (ends : EndsAt false dataType) (starts : Text.startsBlank rest = false) :
    Reaches false false (Text.squeeze (dataType ++ [' '])) (Text.squeeze rest) := by
  unfold EndsAt at ends
  split at ends
  · cases ends
  · rename_i last isLast
    obtain ⟨init, rfl⟩ := List.getLast?_eq_some_iff.mp isLast
    cases blank : Text.isBlank last with
    | false => exact (reaches.space ends blank).squeeze starts
    | true =>
      rw [Text.squeeze_concat_space init last blank]
      exact reaches.squeeze starts

/-- A head with the blanks of its data type and of its opening squeezed, a space put between the two,
and another rest behind them. -/
def respaced (head : Head) (rest : Text) : Head where
  before := []
  name := head.name
  dataType := Text.squeeze (head.dataType ++ [' '])
  opening := Text.squeeze head.opening
  rest

/-- A head is found again respaced, whatever stands behind it. -/
theorem find?_respaced (source : Text) (head : Head) (found : find? source = some head)
    (starts : Text.startsBlank head.dataType = true) (rest : Text) :
    find? ('\x60' :: (head.name ++ '\x60' :: (Text.squeeze (head.dataType ++ [' ']) ++
      (Text.squeeze head.opening ++ rest)))) = some (head.respaced rest) := by
  have fits := fits_of_find? source head found
  obtain ⟨lead, opening⟩ := fits.exists_opening
  obtain ⟨_, spelled, opens, ends⟩ := fits
  obtain ⟨named, read⟩ := reads_of_find? source head found
  have equal : head.opening ++ head.rest = lead ++ '(' :: head.rest := by
    rw [opening, List.append_assoc, List.singleton_append]
  have squeezed (after : Text) : Text.squeeze (lead ++ '(' :: after) =
      Text.squeeze lead ++ '(' :: Text.squeeze after :=
    Text.squeeze_append_cons lead after '(' rfl
  have follows : splitType? false false (Text.squeeze (head.dataType ++ [' ']) ++
      (Text.squeeze head.opening ++ rest)) =
      some (Text.squeeze (head.dataType ++ [' ']), Text.squeeze head.opening, rest) := by
    rw [List.append_assoc] at read
    have reaches := (reaches_of_splitType? false false _ _ _ read).respaced ends
      (startsVisible_of_opens _ _ opens)
    have reopens := afterOpening?_squeeze (head.opening ++ head.rest)
    rw [opens] at reopens
    rw [equal, squeezed] at reaches reopens
    rw [afterOpening?_append_cons '(' rfl rfl] at reopens
    obtain ⟨after, opensAlone, nothing⟩ := Option.map_eq_some_iff.mp reopens
    have spelledOpening : Text.squeeze head.opening = Text.squeeze lead ++ ['('] := by
      rw [opening, squeezed]
      rfl
    rw [spelledOpening]
    refine splitType?_of_reaches false false _ _ rest ?_ ?_
    · rw [List.append_assoc, List.singleton_append]
      exact reaches.replace rest
    · rw [List.append_assoc, List.singleton_append, afterOpening?_append_cons '(' rfl rfl,
        opensAlone, List.append_left_eq_self.mp nothing]
      rfl
  have ends : (Text.squeeze (head.dataType ++ [' ']) ++
      (Text.squeeze head.opening ++ rest)).head? ≠ some '\x60' := by
    rw [Text.squeeze_append_space head.dataType starts]
    cases Text.words head.dataType <;> simp [Text.spread]
  have inside := Identifier.readInside?_double (splitType? false false)
    (Identifier.unquote head.name) _ _ false
    (Or.inr fun empty => named (by rw [← spelled, empty]; rfl)) ends follows
  rw [spelled] at inside
  rw [find?, if_pos rfl, inside]
  rfl

end Head

/-! ### The expression -/

namespace Nesting

theorem Closes.squeeze_cons_blank {depth : Nat} {quote : Option Char} {character : Char}
    {rest : Text} (closes : Closes depth quote (Text.squeeze rest))
    (isMark : ∀ mark ∈ quote, isQuote mark = true) (blank : Text.isBlank character = true) :
    Closes depth quote (Text.squeeze (character :: rest)) := by
  cases continues : Text.startsBlank rest with
  | true =>
    rw [Text.squeeze_cons_blanks character rest blank continues]
    exact closes
  | false =>
    rw [Text.squeeze_cons_blank character rest blank continues]
    exact closes.cons_blank isMark ' ' rfl

/-- An escaped character stays escaped: a blank, and those behind it, become one escaped space. -/
theorem Closes.squeeze_escape {depth : Nat} {quote character next : Char} {rest : Text}
    (closes : Closes depth (some quote) (Text.squeeze rest)) (isMark : isQuote quote = true)
    (escaped : escapes quote character = true) :
    Closes depth (some quote) (character :: Text.squeeze (next :: rest)) := by
  cases blank : Text.isBlank next with
  | false =>
    rw [Text.squeeze_cons_visible next rest blank]
    exact .escape escaped closes
  | true =>
    cases continues : Text.startsBlank rest with
    | false =>
      rw [Text.squeeze_cons_blank next rest blank continues]
      exact .escape escaped closes
    | true =>
      rw [Text.squeeze_cons_blanks next rest blank continues]
      rw [Text.squeeze_of_startsBlank rest continues] at closes ⊢
      exact .escape escaped (closes.of_cons_blank isMark rfl)

/-- A character behind a closing quote may become a space, but never the quote. -/
theorem Closes.squeeze_unquote {depth : Nat} {quote next : Char} {rest : Text}
    (closes : Closes depth none (Text.squeeze (next :: rest)))
    (visible : Text.isBlank quote = false) (unescaped : escapes quote quote = false)
    (other : next ≠ quote) :
    Closes depth (some quote) (quote :: Text.squeeze (next :: rest)) := by
  cases blank : Text.isBlank next with
  | false =>
    rw [Text.squeeze_cons_visible next rest blank] at closes ⊢
    exact .unquote unescaped other closes
  | true =>
    rw [Text.squeeze_of_startsBlank (next :: rest) blank] at closes ⊢
    exact .unquote unescaped (Text.ne_of_isBlank quote ' ' visible rfl) closes

/-- Blanks of a text that ends with its closing parenthesis may be squeezed, those in quotes
included. -/
theorem Closes.squeeze {depth : Nat} {quote : Option Char} {text : Text}
    (closes : Closes depth quote text) (isMark : ∀ mark ∈ quote, isQuote mark = true) :
    Closes depth quote (Text.squeeze text) := by
  induction closes with
  | @escape depth quote character next rest escaped _ inductionHypothesis =>
    have visible : Text.isBlank character = false := by
      rw [escapes, Bool.and_eq_true, beq_iff_eq] at escaped
      rw [escaped.1]
      rfl
    rw [Text.squeeze_cons_visible character _ visible]
    exact (inductionHypothesis isMark).squeeze_escape (isMark quote rfl) escaped
  | @doubled depth quote rest unescaped _ inductionHypothesis =>
    have visible := isBlank_of_isQuote quote (isMark quote rfl)
    rw [Text.squeeze_cons_visible quote _ visible, Text.squeeze_cons_visible quote _ visible]
    exact .doubled unescaped (inductionHypothesis isMark)
  | @unquote depth quote next rest unescaped other _ inductionHypothesis =>
    have visible := isBlank_of_isQuote quote (isMark quote rfl)
    rw [Text.squeeze_cons_visible quote _ visible]
    exact (inductionHypothesis fun _ member => by cases member).squeeze_unquote visible unescaped
      other
  | @quoted depth quote character rest unescaped other _ inductionHypothesis =>
    cases blank : Text.isBlank character with
    | false =>
      rw [Text.squeeze_cons_visible character rest blank]
      exact .quoted unescaped other (inductionHypothesis isMark)
    | true => exact (inductionHypothesis isMark).squeeze_cons_blank isMark blank
  | @quote depth character rest opens _ inductionHypothesis =>
    rw [Text.squeeze_cons_visible character rest (isBlank_of_isQuote character opens)]
    exact .quote opens (inductionHypothesis fun mark member => by cases member; exact opens)
  | @deeper depth rest _ inductionHypothesis =>
    rw [Text.squeeze_cons_visible '(' rest rfl]
    exact .deeper (inductionHypothesis isMark)
  | @shallower depth rest _ inductionHypothesis =>
    rw [Text.squeeze_cons_visible ')' rest rfl]
    exact .shallower (inductionHypothesis isMark)
  | @plain depth character rest plain notOpen notClose _ inductionHypothesis =>
    cases blank : Text.isBlank character with
    | false =>
      rw [Text.squeeze_cons_visible character rest blank]
      exact .plain plain notOpen notClose (inductionHypothesis isMark)
    | true => exact (inductionHypothesis isMark).squeeze_cons_blank isMark blank
  | last => exact .last

/-- A balanced text stays balanced where its blanks are squeezed. -/
theorem Balanced.squeeze {inside : Text} (balanced : Balanced inside) :
    Balanced (Text.squeeze inside) := by
  have squeezed := balanced.closes.squeeze fun _ member => by cases member
  rw [Text.squeeze_append_cons inside [] ')' rfl] at squeezed
  exact squeezed.balanced

end Nesting

end DumpRestore
