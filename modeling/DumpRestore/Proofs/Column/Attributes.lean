/-
This file describes the texts that are attributes from their first character to their last: words
and blanks with groups between them. Attributes that are read at the start of a text are such a
text, and such a text is read to its end. It stays one where its blanks are squeezed or trimmed and
where the words between its groups are rewritten, and the words it says are those between its
groups.
-/

import DumpRestore.Column.Attributes
import DumpRestore.Proofs.Text.Respacing

namespace DumpRestore.Attributes

/-! ### Groups -/

/-- Where a reader of a group stands behind a character; none where the character closes the group
or makes it fail. -/
def placeAfter? : Place → Char → Option Place
  | .direct, character =>
    if character = ')' then none
    else if character = '(' then some .inner
    else if character = '\'' ∨ character = '"' then some (.quoted character)
    else some .direct
  | .quoted quote, character => some (if character = quote then .direct else .quoted quote)
  | .inner, character =>
    if character = '(' then none else if character = ')' then some .direct else some .inner

/-- Whether a text ends with the parenthesis that closes a group. -/
def Closes (place : Place) (inside : Text) : Prop :=
  closingLength? place inside = some inside.length

/-- A character that neither closes a group nor makes it fail is read on its own. -/
theorem closingLength?_cons (place next : Place) (character : Char) (rest : Text)
    (state : placeAfter? place character = some next) :
    closingLength? place (character :: rest) = (closingLength? next rest).map (· + 1) := by
  cases place with
  | direct =>
    rw [placeAfter?] at state
    split at state
    · cases state
    · rename_i further
      rw [closingLength?, if_neg further]
      split at state
      · rename_i same
        cases state
        rw [if_pos same]
      · rename_i other
        rw [if_neg other]
        split at state <;> rename_i quote <;> cases state
        · rw [if_pos quote]
        · rw [if_neg quote]
  | quoted quote =>
    cases state
    rfl
  | inner =>
    rw [placeAfter?] at state
    split at state
    · cases state
    · rename_i further
      rw [closingLength?, if_neg further]
      split at state <;> rename_i closing <;> cases state
      · rw [if_pos closing]
      · rw [if_neg closing]

theorem closingLength?_cons_eq_some (place : Place) (character : Char) (rest : Text) (length : Nat)
    (found : closingLength? place (character :: rest) = some length) :
    (place = .direct ∧ character = ')' ∧ length = 1) ∨
      ∃ next further, placeAfter? place character = some next ∧
        closingLength? next rest = some further ∧ length = further + 1 := by
  cases state : placeAfter? place character with
  | some next =>
    rw [closingLength?_cons place next character rest state] at found
    obtain ⟨further, read, rfl⟩ := Option.map_eq_some_iff.mp found
    exact Or.inr ⟨next, further, rfl, read, rfl⟩
  | none =>
    cases place with
    | direct =>
      rw [placeAfter?] at state
      split at state
      · rename_i same
        subst same
        cases found
        exact Or.inl ⟨rfl, rfl, rfl⟩
      · split at state
        · cases state
        · split at state <;> cases state
    | quoted quote => cases state
    | inner =>
      rw [placeAfter?] at state
      split at state
      · rename_i same
        rw [closingLength?, if_pos same] at found
        cases found
      · split at state <;> cases state

theorem closes_cons (place : Place) (character : Char) (rest : Text) :
    Closes place (character :: rest) ↔ (place = .direct ∧ character = ')' ∧ rest = []) ∨
      ∃ next, placeAfter? place character = some next ∧ Closes next rest := by
  constructor
  · intro closes
    rcases closingLength?_cons_eq_some place character rest _ closes with
      ⟨direct, closing, one⟩ | ⟨next, further, state, read, equal⟩
    · rw [List.length_cons] at one
      exact Or.inl ⟨direct, closing, List.eq_nil_of_length_eq_zero (Nat.succ.inj one)⟩
    · exact Or.inr ⟨next, state, read.trans (congrArg some (Nat.succ.inj equal).symm)⟩
  · rintro (⟨rfl, rfl, rfl⟩ | ⟨next, state, closes⟩)
    · rfl
    · rw [Closes, closingLength?_cons place next character rest state, closes]
      rfl

theorem not_closes_nil (place : Place) : ¬ Closes place [] := by
  intro closes
  cases place <;> cases closes

/-- A group that has been closed is closed whatever follows. -/
theorem closingLength?_append (place : Place) (inside rest : Text) (closes : Closes place inside) :
    closingLength? place (inside ++ rest) = some inside.length := by
  induction inside generalizing place with
  | nil => exact absurd closes (not_closes_nil place)
  | cons character inside inductionHypothesis =>
    rcases (closes_cons place character inside).mp closes with
      ⟨rfl, rfl, rfl⟩ | ⟨next, state, further⟩
    · rfl
    · rw [List.cons_append, closingLength?_cons place next character (inside ++ rest) state,
        inductionHypothesis next further]
      rfl

/-- The text up to the parenthesis that closes a group ends with that parenthesis. -/
theorem exists_closes (place : Place) (text : Text) (length : Nat)
    (found : closingLength? place text = some length) :
    ∃ inside rest, text = inside ++ rest ∧ inside.length = length ∧ Closes place inside := by
  induction text generalizing place length with
  | nil => cases place <;> cases found
  | cons character rest inductionHypothesis =>
    rcases closingLength?_cons_eq_some place character rest length found with
      ⟨rfl, rfl, rfl⟩ | ⟨next, further, state, read, rfl⟩
    · exact ⟨[')'], rest, rfl, rfl, rfl⟩
    · obtain ⟨inside, after, rfl, rfl, closes⟩ := inductionHypothesis next further read
      exact ⟨character :: inside, after, rfl, rfl,
        (closes_cons place character inside).mpr (Or.inr ⟨next, state, closes⟩)⟩

theorem Closes.exists_concat {place : Place} {inside : Text} (closes : Closes place inside) :
    ∃ init, inside = init ++ [')'] := by
  induction inside generalizing place with
  | nil => exact absurd closes (not_closes_nil place)
  | cons character inside inductionHypothesis =>
    rcases (closes_cons place character inside).mp closes with
      ⟨rfl, rfl, rfl⟩ | ⟨next, _, further⟩
    · exact ⟨[], rfl⟩
    · obtain ⟨init, rfl⟩ := inductionHypothesis further
      exact ⟨character :: init, rfl⟩

/-- A place whose quote, if there is one, is no blank. -/
def Place.Visible (place : Place) : Prop :=
  ∀ quote, place = .quoted quote → Text.isBlank quote = false

theorem visible_of_placeAfter? (place next : Place) (character : Char) (visible : place.Visible)
    (state : placeAfter? place character = some next) : next.Visible := by
  rintro quote rfl
  cases place with
  | direct =>
    rw [placeAfter?] at state
    split at state
    · cases state
    · split at state
      · cases state
      · split at state <;> cases state
        rename_i isQuote
        rcases isQuote with rfl | rfl <;> rfl
  | quoted other =>
    rw [placeAfter?] at state
    split at state <;> cases state
    exact visible quote rfl
  | inner =>
    rw [placeAfter?] at state
    split at state
    · cases state
    · split at state <;> cases state

/-- A blank changes nothing about the place. -/
theorem placeAfter?_blank (place : Place) (character : Char) (visible : place.Visible)
    (blank : Text.isBlank character = true) : placeAfter? place character = some place := by
  have other (mark : Char) (markVisible : Text.isBlank mark = false) : character ≠ mark :=
    Text.ne_of_isBlank mark character markVisible blank
  cases place with
  | direct =>
    rw [placeAfter?, if_neg (other ')' rfl), if_neg (other '(' rfl), if_neg]
    exact not_or.mpr ⟨other '\'' rfl, other '"' rfl⟩
  | quoted quote => rw [placeAfter?, if_neg (other quote (visible quote rfl))]
  | inner => rw [placeAfter?, if_neg (other '(' rfl), if_neg (other ')' rfl)]

theorem closes_cons_blank (place : Place) (character : Char) (rest : Text) (visible : place.Visible)
    (blank : Text.isBlank character = true) :
    Closes place (character :: rest) ↔ Closes place rest := by
  have state := placeAfter?_blank place character visible blank
  rw [closes_cons place character rest, state]
  constructor
  · rintro (⟨-, rfl, -⟩ | ⟨_, same, closes⟩)
    · cases blank
    · exact Option.some.inj same ▸ closes
  · exact fun closes => Or.inr ⟨place, rfl, closes⟩

/-- The blanks of a group may be squeezed, those in quotes included. -/
theorem Closes.squeeze {place : Place} {inside : Text} (closes : Closes place inside)
    (visible : place.Visible) : Closes place (Text.squeeze inside) := by
  induction inside generalizing place with
  | nil => exact closes
  | cons character inside inductionHypothesis =>
    cases blank : Text.isBlank character with
    | true =>
      have further := inductionHypothesis
        ((closes_cons_blank place character inside visible blank).mp closes) visible
      cases continues : Text.startsBlank inside with
      | true =>
        rw [Text.squeeze_cons_blanks character inside blank continues]
        exact further
      | false =>
        rw [Text.squeeze_cons_blank character inside blank continues]
        exact (closes_cons_blank place ' ' _ visible rfl).mpr further
    | false =>
      rw [Text.squeeze_cons_visible character inside blank]
      rcases (closes_cons place character inside).mp closes with
        ⟨rfl, rfl, rfl⟩ | ⟨next, state, further⟩
      · rfl
      · exact (closes_cons place character _).mpr (Or.inr ⟨next, state, inductionHypothesis further
          (visible_of_placeAfter? place next character visible state)⟩)

/-! ### Attributes to the end -/

/-- A text that is attributes to its end: words and blanks, groups between them. -/
inductive Whole : Text → Prop
  | words (text : Text) (onlyWords : Text.OnlyWords text) : Whole text
  | group (text inside rest : Text) (onlyWords : Text.OnlyWords text)
      (closes : Closes .direct inside) (whole : Whole rest) :
      Whole (text ++ '(' :: (inside ++ rest))

theorem onlyWords_nil : Text.OnlyWords [] := fun _ member => by cases member

theorem whole_nil : Whole [] :=
  .words [] onlyWords_nil

theorem Whole.append {first second : Text} (firstWhole : Whole first) (secondWhole : Whole second) :
    Whole (first ++ second) := by
  induction firstWhole with
  | words text onlyWords =>
    cases secondWhole with
    | words other otherWords => exact .words _ (onlyWords.append otherWords)
    | group other inside rest otherWords closes whole =>
      rw [← List.append_assoc]
      exact .group _ inside rest (onlyWords.append otherWords) closes whole
  | group text inside rest onlyWords closes whole inductionHypothesis =>
    have further := Whole.group text inside _ onlyWords closes inductionHypothesis
    rw [List.append_assoc, List.cons_append, List.append_assoc]
    exact further

theorem Whole.cons {character : Char} {text : Text} (whole : Whole text)
    (belongs : Text.OnlyWords [character]) : Whole (character :: text) :=
  (Whole.words [character] belongs).append whole

/-- Words and blanks may be taken away at the end. -/
theorem Whole.of_append {text words : Text} (whole : Whole (text ++ words))
    (onlyWords : Text.OnlyWords words) : Whole text := by
  generalize equal : text ++ words = longer at whole
  induction whole generalizing text with
  | words longer longerWords =>
    exact .words text fun character member =>
      longerWords character (equal ▸ List.mem_append_left words member)
  | group before inside rest beforeWords closes whole inductionHypothesis =>
    obtain ⟨init, rfl⟩ := closes.exists_concat
    have cut : text ++ words = (before ++ '(' :: init ++ [')']) ++ rest := by
      rw [equal]
      simp only [List.append_assoc, List.cons_append]
    -- No parenthesis stands in what is taken away, so it is taken from the rest.
    rcases List.append_eq_append_iff.mp cut with ⟨more, longer, shorter⟩ | ⟨kept, rfl, rest⟩
    · rcases List.eq_nil_or_concat more with rfl | ⟨most, last, rfl⟩
      · rw [List.append_nil] at longer
        rw [← longer]
        have whole := Whole.group before (init ++ [')']) [] beforeWords closes whole_nil
        simpa only [List.append_nil, List.append_assoc, List.cons_append] using whole
      · rw [List.concat_eq_append, ← List.append_assoc] at longer
        have closing : ')' = last := by
          have lasts := congrArg List.getLast? longer
          rwa [List.getLast?_concat, List.getLast?_concat, Option.some_inj] at lasts
        refine absurd ?_ (onlyWords.not_mem ')' rfl rfl)
        rw [shorter, List.concat_eq_append, closing]
        exact List.mem_append_left _ (List.mem_append_right _ (List.mem_singleton_self last))
    · have shorter := inductionHypothesis rest.symm
      have whole := Whole.group before (init ++ [')']) kept beforeWords closes shorter
      simpa only [List.append_assoc, List.cons_append] using whole

theorem Whole.of_cons {character : Char} {text : Text} (whole : Whole (character :: text))
    (belongs : Text.OnlyWords [character]) : Whole text := by
  generalize equal : character :: text = longer at whole
  cases whole with
  | words longer onlyWords =>
    subst equal
    exact .words text fun other member => onlyWords other (List.mem_cons_of_mem character member)
  | group words inside rest onlyWords closes further =>
    cases words with
    | nil =>
      injection equal with isOpen _
      exact absurd (isOpen ▸ List.mem_singleton_self character) (belongs.not_mem '(' rfl rfl)
    | cons first words =>
      injection equal with _ behind
      rw [behind]
      exact .group words inside rest
        (fun other member => onlyWords other (List.mem_cons_of_mem first member)) closes further

theorem Whole.of_append_blanks {lead text : Text} (whole : Whole (lead ++ text))
    (blank : ∀ character ∈ lead, Text.isBlank character = true) : Whole text := by
  induction lead with
  | nil => exact whole
  | cons character lead inductionHypothesis =>
    refine inductionHypothesis (whole.of_cons ?_) fun other member =>
      blank other (List.mem_cons_of_mem character member)
    exact Text.onlyWords_blank character (blank character List.mem_cons_self)

theorem Whole.trim {text : Text} (whole : Whole text) : Whole (Text.trim text) := by
  obtain ⟨lead, tail, equal, leadBlank, tailBlank⟩ := Text.exists_trim text
  rw [equal] at whole
  have shorter := whole.of_append fun character member => Or.inr (tailBlank character member)
  exact shorter.of_append_blanks leadBlank

/-- A group is squeezed on its own. -/
theorem squeeze_group (text inside rest : Text) (closes : Closes .direct inside) :
    Text.squeeze (text ++ '(' :: (inside ++ rest)) =
      Text.squeeze text ++ '(' :: (Text.squeeze inside ++ Text.squeeze rest) := by
  obtain ⟨init, rfl⟩ := closes.exists_concat
  rw [Text.squeeze_append_cons text _ '(' rfl, List.append_assoc, List.singleton_append,
    Text.squeeze_append_cons init rest ')' rfl, Text.squeeze_append_cons init [] ')' rfl,
    List.append_assoc]
  rfl

theorem Whole.squeeze {text : Text} (whole : Whole text) : Whole (Text.squeeze text) := by
  induction whole with
  | words text onlyWords => exact .words _ onlyWords.squeeze
  | group text inside rest onlyWords closes whole inductionHypothesis =>
    rw [squeeze_group text inside rest closes]
    exact .group _ _ _ onlyWords.squeeze (closes.squeeze fun _ impossible => by cases impossible)
      inductionHypothesis

theorem Whole.spread_words {text : Text} (whole : Whole text) :
    Whole (Text.spread (Text.words text)) := by
  rcases Text.spread_words_cases text with ⟨_, equal⟩ | equal
  · rw [equal]
    exact whole_nil
  · rw [equal]
    exact whole.trim.squeeze.cons (Text.onlyWords_blank ' ' rfl)

/-- Attributes start with a word, a blank or a group. -/
theorem Whole.head?_ne {text : Text} (whole : Whole text) (mark : Char)
    (gap : Text.isWordChar mark = false) (visible : Text.isBlank mark = false)
    (other : mark ≠ '(') : text.head? ≠ some mark := by
  cases whole with
  | words _ onlyWords =>
    exact fun starts => onlyWords.not_mem mark gap visible (List.mem_of_head? starts)
  | group text inside rest onlyWords closes whole =>
    cases text with
    | nil => exact fun starts => other (Option.some.inj starts).symm
    | cons character text =>
      exact fun starts => onlyWords.not_mem mark gap visible (List.mem_of_head? starts)

/-! ### Reading attributes -/

/-- A text cut behind its attributes loses nothing. -/
theorem split_append (text : Text) : (split text).1 ++ (split text).2 = text := by
  rw [split, List.splitAt_eq]
  exact List.take_append_drop _ text

theorem runLength_append (words rest : Text) (onlyWords : Text.OnlyWords words) :
    runLength 0 (words ++ rest) = words.length + runLength 0 rest := by
  induction words with
  | nil => rw [List.nil_append, List.length_nil, Nat.zero_add]
  | cons character words inductionHypothesis =>
    have belongs : (Text.isWordChar character || Text.isBlank character) = true :=
      Bool.or_eq_true_iff.mpr (onlyWords character List.mem_cons_self)
    rw [List.cons_append, runLength, if_pos belongs, List.length_cons,
      inductionHypothesis fun other member => onlyWords other (List.mem_cons_of_mem _ member),
      Nat.add_right_comm]

/-- What is owed to a group is read on. -/
theorem runLength_owed (inside rest : Text) :
    runLength inside.length (inside ++ rest) = inside.length + runLength 0 rest := by
  induction inside with
  | nil => rw [List.nil_append, List.length_nil, Nat.zero_add]
  | cons character inside inductionHypothesis =>
    rw [List.length_cons, List.cons_append, runLength, inductionHypothesis, Nat.add_right_comm]

theorem runLength_group (inside rest : Text) (closes : Closes .direct inside) :
    runLength 0 ('(' :: (inside ++ rest)) = inside.length + 1 + runLength 0 rest := by
  have mark : ¬ (Text.isWordChar '(' || Text.isBlank '(') = true := by decide
  rw [runLength, if_neg mark, if_pos rfl, closingLength?_append .direct inside rest closes]
  dsimp only
  rw [runLength_owed, Nat.add_right_comm]

/-- Attributes are read to their end. -/
theorem Whole.runLength_append {text : Text} (whole : Whole text) (rest : Text) :
    runLength 0 (text ++ rest) = text.length + runLength 0 rest := by
  induction whole with
  | words text onlyWords => exact Attributes.runLength_append text rest onlyWords
  | group text inside further onlyWords closes whole inductionHypothesis =>
    have joined : text ++ '(' :: (inside ++ further) ++ rest =
        text ++ '(' :: (inside ++ (further ++ rest)) := by
      simp only [List.append_assoc, List.cons_append]
    rw [joined, Attributes.runLength_append text _ onlyWords, runLength_group inside _ closes,
      inductionHypothesis]
    simp only [List.length_append, List.length_cons]
    omega

theorem Whole.split_append {text : Text} (whole : Whole text) (rest : Text)
    (stops : runLength 0 rest = 0) : split (text ++ rest) = (text, rest) := by
  rw [split, whole.runLength_append rest, stops, Nat.add_zero, List.splitAt_eq, List.take_left,
    List.drop_left]

/-- What is read as attributes is attributes to its end. -/
theorem whole_split (text : Text) : Whole (split text).1 := by
  rw [split, List.splitAt_eq]
  dsimp only
  -- The induction is on the length: a whole group is taken off the front at once.
  induction length : text.length using Nat.strongRecOn generalizing text with
  | ind bound inductionHypothesis =>
    subst length
    cases text with
    | nil => exact whole_nil
    | cons character rest =>
      rw [runLength]
      split
      · rename_i belongs
        refine (inductionHypothesis rest.length (Nat.lt_succ_self _) rest rfl).cons ?_
        exact fun other member => List.mem_singleton.mp member ▸ Bool.or_eq_true_iff.mp belongs
      · split
        · rename_i isOpen
          subst isOpen
          split
          · rename_i found closing
            obtain ⟨inside, after, rfl, rfl, closes⟩ := exists_closes .direct rest found closing
            have shorter : after.length < ('(' :: (inside ++ after)).length := by
              rw [List.length_cons, List.length_append]
              omega
            have whole := Whole.group [] inside _ onlyWords_nil closes
              (inductionHypothesis after.length shorter after rfl)
            rw [runLength_owed, List.take_succ_cons, List.take_length_add_append]
            exact whole
          · exact whole_nil
        · exact whole_nil

/-! ### The words of attributes -/

theorem cut_of_not_mem (text : Text) (flat : '(' ∉ text) : Piece.cut 0 text = [.bare text] := by
  induction text with
  | nil => rfl
  | cons character text inductionHypothesis =>
    have other : character ≠ '(' := fun same => flat (same ▸ List.mem_cons_self)
    rw [Piece.cut, if_neg other,
      inductionHypothesis fun member => flat (List.mem_cons_of_mem _ member)]
    rfl

theorem bareWords_of_onlyWords (words : Text) (onlyWords : Text.OnlyWords words) :
    bareWords words = words := by
  rw [bareWords, Piece.ofText, cut_of_not_mem words (onlyWords.not_mem '(' rfl rfl)]
  rfl

theorem cut_cons_of_ne (character : Char) (rest : Text) (other : character ≠ '(') :
    Piece.cut 0 (character :: rest) = Piece.prependBare character (Piece.cut 0 rest) := by
  rw [Piece.cut, if_neg other]

theorem cut_owed (character : Char) (inside rest : Text) :
    Piece.cut (inside.length + 1) (character :: (inside ++ rest)) =
      .group (character :: inside) :: Piece.cut 0 rest := by
  induction inside generalizing character with
  | nil => rfl
  | cons second inside inductionHypothesis =>
    rw [List.length_cons, Piece.cut, List.cons_append, inductionHypothesis second]
    rfl

/-- A group is a piece, and so is the text in front of it. -/
theorem cut_group (text inside rest : Text) (flat : '(' ∉ text) (closes : Closes .direct inside) :
    Piece.ofText (text ++ '(' :: (inside ++ rest)) =
      .bare text :: .group ('(' :: inside) :: Piece.ofText rest := by
  rw [Piece.ofText]
  induction text with
  | nil =>
    cases inside with
    | nil => exact absurd closes (not_closes_nil _)
    | cons character inside =>
      rw [List.nil_append, Piece.cut, if_pos rfl, closingLength?_append .direct _ rest closes]
      dsimp only
      rw [List.length_cons, List.cons_append, cut_owed character inside rest]
      rfl
  | cons character text inductionHypothesis =>
    have other : character ≠ '(' := fun same => flat (same ▸ List.mem_cons_self)
    rw [List.cons_append, cut_cons_of_ne character _ other,
      inductionHypothesis fun member => flat (List.mem_cons_of_mem character member)]
    rfl

section Rewriting

variable (rewrite : Text → Text)

theorem mapBare_words (text : Text) (onlyWords : Text.OnlyWords text) :
    mapBare rewrite text = rewrite text := by
  rw [mapBare, Piece.ofText, cut_of_not_mem text (onlyWords.not_mem '(' rfl rfl)]
  exact List.append_nil _

theorem mapBare_group (text inside rest : Text) (onlyWords : Text.OnlyWords text)
    (closes : Closes .direct inside) :
    mapBare rewrite (text ++ '(' :: (inside ++ rest)) =
      rewrite text ++ '(' :: (inside ++ mapBare rewrite rest) := by
  rw [mapBare, cut_group text inside rest (onlyWords.not_mem '(' rfl rfl) closes]
  rfl

/-- Attributes stay attributes where their words are rewritten to words. -/
theorem Whole.mapBare {text : Text} (whole : Whole text)
    (keeps : ∀ words, Text.OnlyWords words → Text.OnlyWords (rewrite words)) :
    Whole (mapBare rewrite text) := by
  induction whole with
  | words text onlyWords =>
    rw [mapBare_words rewrite text onlyWords]
    exact .words _ (keeps text onlyWords)
  | group text inside rest onlyWords closes whole inductionHypothesis =>
    rw [mapBare_group rewrite text inside rest onlyWords closes]
    exact .group _ inside _ (keeps text onlyWords) closes inductionHypothesis

end Rewriting

end DumpRestore.Attributes
