/-
This file proves what a head says of the source it is found in: its texts are the source, cut in
five, the name is spelled with every backtick twice, and the expression opens at the end of a
word. A source in which no expression opens there has no head. The backtick is the character 0x60.
-/

import DumpRestore.Column.Head
import DumpRestore.Proofs.Identifier
import DumpRestore.Proofs.Text.Words

namespace DumpRestore.Head

/-! ### The opening of an expression -/

theorem afterAs?_eq_some (text after : Text) (read : afterAs? text = some after) :
    ∃ lead, text = lead ++ '(' :: after ∧ Text.OnlyWords lead := by
  obtain ⟨rest, keyword, further⟩ := Option.bind_eq_some_iff.mp read
  obtain ⟨lead, equal, leads⟩ := Text.exists_onlyWords_of_keyword? "as" text rest rfl keyword
  split at further
  · rename_i skipped
    cases further
    exact ⟨lead, skipped ▸ equal, leads⟩
  · cases further

theorem afterOpening?_eq_some (text after : Text) (read : afterOpening? text = some after) :
    ∃ lead, text = lead ++ '(' :: after ∧ Text.OnlyWords lead := by
  unfold afterOpening? at read
  dsimp only at read
  split at read
  · rename_i found generated
    cases read
    obtain ⟨rest, keyword, further⟩ := Option.bind_eq_some_iff.mp generated
    obtain ⟨second, always, last⟩ := Option.bind_eq_some_iff.mp further
    obtain ⟨lead, rfl, leads⟩ :=
      Text.exists_onlyWords_of_keyword? "generated" text rest rfl keyword
    obtain ⟨middle, middleEqual, middleLeads⟩ :=
      Text.exists_onlyWords_of_keyword? "always" _ second rfl always
    obtain ⟨tail, tailEqual, tailLeads⟩ := afterAs?_eq_some _ after last
    refine ⟨lead ++ (middle ++ tail), ?_, leads.append (middleLeads.append tailLeads)⟩
    rw [middleEqual, tailEqual]
    simp only [List.append_assoc]
  · exact afterAs?_eq_some text after read

/-! ### Where no expression opens -/

theorem afterOpening?_of_not_generated (text : Text)
    (notGenerated : Text.keyword? "generated" text = none) :
    afterOpening? text = afterAs? text := by
  unfold afterOpening?
  rw [notGenerated]
  rfl

/-- No expression opens at a character that belongs to no word, nor at the end. -/
theorem afterOpening?_of_endsWord (text : Text) (ends : Text.EndsWord text) :
    afterOpening? text = none := by
  have noGenerated := Text.keyword?_append "generated" [] text rfl ends
  have noAs := Text.keyword?_append "as" [] text rfl ends
  rw [List.nil_append] at noGenerated noAs
  rw [afterOpening?_of_not_generated text noGenerated, afterAs?, noAs]
  rfl

/-- No expression opens at a word that is not AS and does not start with GENERATED. -/
theorem afterOpening?_word (word : Text.Word) (rest : Text)
    (notAs : Text.isKeyword "as" word.text = false)
    (notGenerated : Text.keyword? "generated" word.text = none) (ends : Text.EndsWord rest) :
    afterOpening? (word.text ++ rest) = none := by
  have generated := Text.keyword?_append "generated" word.text rest rfl ends
  rw [notGenerated] at generated
  rw [afterOpening?_of_not_generated _ generated, afterAs?,
    Text.keyword?_append "as" word.text rest rfl ends]
  cases read : Text.keyword? "as" word.text with
  | none => rfl
  | some remaining =>
    obtain ⟨spelling, equal, _⟩ := Text.keyword?_eq_some "as" word.text remaining rfl read
    cases remaining with
    | nil =>
      rw [Text.isKeyword, read] at notAs
      cases notAs
    | cons character remaining =>
      have member : character ∈ word.text := by
        rw [equal]
        exact List.mem_append_right spelling List.mem_cons_self
      have inWord := word.inWord character member
      have visible := Text.isBlank_of_isWordChar character inWord
      rw [Option.map_some, Option.bind_some, Text.skipBlanks, List.cons_append,
        List.dropWhile_cons, visible, if_neg Bool.false_ne_true]
      split
      · rename_i same
        injection same with first _
        exact absurd first (Text.ne_of_isWordChar '(' character rfl inWord)
      · rfl

/-! ### The data type -/

/-- Where a data type ends: behind a character that belongs to no word, or at its start where that
is allowed. -/
def EndsAt (mayEnd : Bool) (dataType : Text) : Prop :=
  match dataType.getLast? with
  | none => mayEnd = true
  | some last => Text.isWordChar last = false

theorem EndsAt.cons {mayEnd nextMayEnd : Bool} {character : Char} {dataType : Text}
    (ends : EndsAt nextMayEnd dataType)
    (next : nextMayEnd = true → Text.isWordChar character = false) :
    EndsAt mayEnd (character :: dataType) := by
  cases dataType with
  | nil => exact next ends
  | cons second dataType => exact ends

/-- A data type, the opening behind it and the rest are the text they were read from. -/
theorem splitType?_eq_some (inList mayEnd : Bool) (text dataType opening after : Text)
    (read : splitType? inList mayEnd text = some (dataType, opening, after)) :
    text = dataType ++ opening ++ after ∧ afterOpening? (opening ++ after) = some after ∧
      EndsAt mayEnd dataType := by
  induction text generalizing inList mayEnd dataType with
  | nil => cases read
  | cons character rest inductionHypothesis =>
    have step (nextInList nextMayEnd : Bool)
        (next : nextMayEnd = true → Text.isWordChar character = false)
        (further : (splitType? nextInList nextMayEnd rest).map (fun found =>
          (character :: found.1, found.2)) = some (dataType, opening, after)) :
        character :: rest = dataType ++ opening ++ after ∧
          afterOpening? (opening ++ after) = some after ∧ EndsAt mayEnd dataType := by
      obtain ⟨⟨found, _, _⟩, foundRead, equal⟩ := Option.map_eq_some_iff.mp further
      cases equal
      obtain ⟨split, opens, ends⟩ := inductionHypothesis nextInList nextMayEnd found foundRead
      exact ⟨congrArg (character :: ·) split, opens, ends.cons next⟩
    unfold splitType? at read
    split at read
    · rename_i opens
      cases read
      split at opens
      · rename_i allowed
        obtain ⟨lead, equal, _⟩ := afterOpening?_eq_some _ after opens
        have taken : (character :: rest).take ((character :: rest).length - after.length) =
            lead ++ ['('] := by
          rw [equal, ← List.singleton_append, ← List.append_assoc, List.length_append,
            Nat.add_sub_cancel, List.take_left]
        have joined : lead ++ ['('] ++ after = character :: rest := by
          rw [equal, List.append_assoc, List.singleton_append]
        rw [taken, List.nil_append, joined]
        exact ⟨rfl, opens, allowed⟩
      · cases opens
    · split at read
      · split at read
        · cases read
        · split at read
          · rename_i same
            exact step false true (fun _ => by rw [same]; rfl) read
          · exact step true false (fun impossible => by cases impossible) read
      · split at read
        · exact step true false (fun impossible => by cases impossible) read
        · split at read
          · cases read
          · exact step false _ (fun gap => by simpa using gap) read

section DataType

variable (rest dataType opening after : Text)

/-- A data type goes on with a mark or a blank that does not end it. -/
theorem splitType?_gap (mayEnd : Bool) (character : Char)
    (gap : Text.isWordChar character = false) (notOpen : character ≠ '(')
    (continues : endsType character = false)
    (read : splitType? false true rest = some (dataType, opening, after)) :
    splitType? false mayEnd (character :: rest) =
      some (character :: dataType, opening, after) := by
  have closed := afterOpening?_of_endsWord (character :: rest)
    (Text.endsWord_cons character rest gap)
  unfold splitType?
  rw [closed, ite_self]
  simp only [Bool.false_eq_true, if_false, if_neg notOpen, continues, gap, Bool.not_false, read,
    Option.map_some]

theorem splitType?_insideWord (word : Text)
    (inWord : ∀ character ∈ word, Text.isWordChar character = true)
    (read : splitType? false false rest = some (dataType, opening, after)) :
    splitType? false false (word ++ rest) = some (word ++ dataType, opening, after) := by
  induction word with
  | nil => exact read
  | cons character word inductionHypothesis =>
    have first := inWord character List.mem_cons_self
    have further := inductionHypothesis fun other member =>
      inWord other (List.mem_cons_of_mem character member)
    have other (mark : Char) (gap : Text.isWordChar mark = false) : character ≠ mark :=
      Text.ne_of_isWordChar mark character gap first
    have continues : endsType character = false := by
      simp only [endsType, Bool.or_eq_false_iff, beq_eq_false_iff_ne]
      exact ⟨⟨⟨other ',' rfl, other '\'' rfl⟩, other '"' rfl⟩, other ')' rfl⟩
    rw [List.cons_append]
    unfold splitType?
    simp only [Bool.false_eq_true, if_false, if_neg (other '(' rfl), continues, first,
      Bool.not_true, further, Option.map_some, List.cons_append]

theorem splitType?_word (word : Text.Word)
    (closed : afterOpening? (word.text ++ rest) = none)
    (read : splitType? false false rest = some (dataType, opening, after)) :
    splitType? false true (word.text ++ rest) = some (word.text ++ dataType, opening, after) := by
  have further := splitType?_insideWord rest dataType opening after word.text word.inWord read
  cases equal : word.text with
  | nil => exact absurd equal word.nonempty
  | cons character remaining =>
    rw [equal, List.cons_append] at closed further
    rw [List.cons_append]
    unfold splitType? at further ⊢
    rw [closed]
    exact further

/-- A data type goes on with a list in parentheses. -/
theorem splitType?_list (mayEnd : Bool) (inside : Text) (noOpen : '(' ∉ inside)
    (noClose : ')' ∉ inside)
    (read : splitType? false true rest = some (dataType, opening, after)) :
    splitType? false mayEnd ('(' :: inside ++ ')' :: rest) =
      some ('(' :: inside ++ ')' :: dataType, opening, after) := by
  have inList : splitType? true false (inside ++ ')' :: rest) =
      some (inside ++ ')' :: dataType, opening, after) := by
    induction inside with
    | nil =>
      rw [List.nil_append]
      unfold splitType?
      dsimp only
      rw [read]
      rfl
    | cons character inside inductionHypothesis =>
      have notOpen : character ≠ '(' := fun same => noOpen (same ▸ List.mem_cons_self)
      have notClose : character ≠ ')' := fun same => noClose (same ▸ List.mem_cons_self)
      have further := inductionHypothesis (fun member => noOpen (List.mem_cons_of_mem _ member))
        fun member => noClose (List.mem_cons_of_mem _ member)
      rw [List.cons_append]
      unfold splitType?
      simp only [Bool.false_eq_true, if_false, if_true, if_neg notOpen, if_neg notClose, further,
        Option.map_some, List.cons_append]
  have closed := afterOpening?_of_endsWord ('(' :: inside ++ ')' :: rest)
    (Text.endsWord_cons '(' _ rfl)
  rw [List.cons_append] at closed ⊢
  unfold splitType?
  rw [closed, ite_self]
  simp only [Bool.false_eq_true, if_false, if_true, inList, Option.map_some, List.cons_append]

end DataType

/-! ### The head -/

/-- What a head says of the source it was found in. -/
structure Fits (source : Text) (head : Head) : Prop where
  parts : source = head.before ++ ('\x60' :: head.name ++ ['\x60'] ++ head.dataType ++
    head.opening ++ head.rest)
  spelled : Text.double '\x60' (Identifier.unquote head.name) = head.name
  opens : afterOpening? (head.opening ++ head.rest) = some head.rest
  ends : EndsAt false head.dataType

/-- The opening of an expression ends with its parenthesis. -/
theorem Fits.exists_opening {source : Text} {head : Head} (fits : head.Fits source) :
    ∃ lead, head.opening = lead ++ ['('] := by
  obtain ⟨lead, equal, _⟩ := afterOpening?_eq_some _ _ fits.opens
  refine ⟨lead, List.append_cancel_right (equal.trans ?_)⟩
  rw [List.append_assoc, List.singleton_append]

theorem fits_of_find? (source : Text) (head : Head) (found : find? source = some head) :
    head.Fits source := by
  induction source generalizing head with
  | nil => cases found
  | cons character rest inductionHypothesis =>
    unfold find? at found
    split at found
    · rename_i name dataType opening after here
      cases found
      split at here
      · rename_i same
        subst same
        obtain ⟨following, rfl, follows⟩ :=
          Identifier.readInside?_eq_some (splitType? false false) false rest name _ here
        have spelled := Identifier.double_unquote_of_readInside? _ false _ name _ here
        obtain ⟨rfl, opens, ends⟩ := splitType?_eq_some false false following _ _ _ follows
        refine ⟨?_, spelled, opens, ends⟩
        simp only [List.nil_append, List.cons_append, List.append_assoc]
      · cases here
    · obtain ⟨further, foundFurther, rfl⟩ := Option.map_eq_some_iff.mp found
      obtain ⟨parts, spelled, opens, ends⟩ := inductionHypothesis further foundFurther
      exact ⟨congrArg (character :: ·) parts, spelled, opens, ends⟩

/-- What is read of the source where a head is found: a name of at least one character, and behind
it the data type. -/
theorem reads_of_find? (source : Text) (head : Head) (found : find? source = some head) :
    head.name ≠ [] ∧ splitType? false false (head.dataType ++ head.opening ++ head.rest) =
      some (head.dataType, head.opening, head.rest) := by
  induction source generalizing head with
  | nil => cases found
  | cons character rest inductionHypothesis =>
    unfold find? at found
    split at found
    · rename_i name dataType opening after here
      cases found
      split at here
      · obtain ⟨following, _, follows⟩ :=
          Identifier.readInside?_eq_some (splitType? false false) false rest name _ here
        obtain ⟨rfl, _, _⟩ := splitType?_eq_some false false following _ _ _ follows
        exact ⟨Identifier.ne_nil_of_readInside? _ rest name _ here, follows⟩
      · cases here
    · obtain ⟨further, foundFurther, rfl⟩ := Option.map_eq_some_iff.mp found
      exact inductionHypothesis further foundFurther

/-! ### Texts without a head -/

/-- Whether an expression opens anywhere in a text where a data type may end before it: behind a
character that belongs to no word, or at the start where `boundary` says so. -/
def opensAnywhere : (boundary : Bool) → Text → Bool
  | _, [] => false
  | boundary, character :: rest =>
    (boundary && (afterOpening? (character :: rest)).isSome) ||
      opensAnywhere (!Text.isWordChar character) rest

theorem opensAnywhere_of_append (boundary : Bool) (first second : Text)
    (closed : opensAnywhere boundary (first ++ second) = false) :
    opensAnywhere (first.getLast?.elim boundary (!Text.isWordChar ·)) second = false := by
  induction first generalizing boundary with
  | nil => exact closed
  | cons character first inductionHypothesis =>
    rw [List.cons_append, opensAnywhere, Bool.or_eq_false_iff] at closed
    have further := inductionHypothesis _ closed.2
    cases first with
    | nil => exact further
    | cons _ _ => exact further

/-- A text in which no expression opens has no head. -/
theorem find?_of_opensNowhere (source : Text) (closed : opensAnywhere false source = false) :
    find? source = none := by
  cases found : find? source with
  | none => rfl
  | some head =>
    obtain ⟨parts, _, opens, ends⟩ := fits_of_find? source head found
    rw [parts, List.append_assoc _ head.opening, ← List.append_assoc head.before] at closed
    have behind := opensAnywhere_of_append false _ _ closed
    obtain ⟨shorter, last, equal, gap⟩ : ∃ shorter last, head.dataType = shorter ++ [last] ∧
        Text.isWordChar last = false := by
      unfold EndsAt at ends
      split at ends
      · cases ends
      · rename_i last isLast
        obtain ⟨shorter, equal⟩ := List.getLast?_eq_some_iff.mp isLast
        exact ⟨shorter, last, equal, ends⟩
    rw [equal, ← List.append_assoc, ← List.append_assoc, List.getLast?_concat, Option.elim_some,
      gap, Bool.not_false] at behind
    obtain ⟨lead, openingEqual, _⟩ := afterOpening?_eq_some _ head.rest opens
    cases whole : head.opening ++ head.rest with
    | nil =>
      rw [whole] at openingEqual
      cases lead <;> cases openingEqual
    | cons character remaining =>
      rw [whole] at behind opens
      rw [opensAnywhere, opens] at behind
      cases behind

/-- No expression opens at a character that belongs to no word; behind it one may. -/
theorem opensAnywhere_gap (boundary : Bool) (character : Char) (rest : Text)
    (gap : Text.isWordChar character = false) :
    opensAnywhere boundary (character :: rest) = opensAnywhere true rest := by
  rw [opensAnywhere, gap,
    afterOpening?_of_endsWord _ (Text.endsWord_cons character rest gap), Option.isSome_none,
    Bool.and_false, Bool.false_or, Bool.not_false]

theorem opensAnywhere_insideWord (word rest : Text)
    (inWord : ∀ character ∈ word, Text.isWordChar character = true) :
    opensAnywhere false (word ++ rest) = opensAnywhere false rest := by
  induction word with
  | nil => rfl
  | cons character word inductionHypothesis =>
    rw [List.cons_append, opensAnywhere, inWord character List.mem_cons_self, Bool.false_and,
      Bool.false_or, Bool.not_true,
      inductionHypothesis fun other member => inWord other (List.mem_cons_of_mem character member)]

theorem opensAnywhere_word (boundary : Bool) (word : Text.Word) (rest : Text)
    (closed : afterOpening? (word.text ++ rest) = none) :
    opensAnywhere boundary (word.text ++ rest) = opensAnywhere false rest := by
  have inside := opensAnywhere_insideWord word.text rest word.inWord
  cases equal : word.text with
  | nil => exact absurd equal word.nonempty
  | cons character remaining =>
    rw [equal, List.cons_append] at closed inside
    rw [opensAnywhere, Bool.false_and, Bool.false_or] at inside
    rw [List.cons_append, opensAnywhere, closed, Option.isSome_none, Bool.and_false, Bool.false_or,
      inside]

/-- A text without an opening parenthesis, cut at a mark, is not cut at a parenthesis behind words
and blanks. -/
theorem append_cons_ne_of_onlyWords (text rest words after : Text) (mark : Char)
    (flat : '(' ∉ text) (onlyWords : Text.OnlyWords words) (gap : Text.isWordChar mark = false)
    (visible : Text.isBlank mark = false) (other : mark ≠ '(') :
    text ++ mark :: rest ≠ words ++ '(' :: after := by
  have absent := onlyWords.not_mem mark gap visible
  clear onlyWords
  induction text generalizing words with
  | nil =>
    intro equal
    cases words with
    | nil =>
      injection equal with same _
      exact other same
    | cons character words =>
      injection equal with same _
      exact absent (same ▸ List.mem_cons_self)
  | cons character text inductionHypothesis =>
    intro equal
    cases words with
    | nil =>
      injection equal with same _
      exact flat (same ▸ List.mem_cons_self)
    | cons second words =>
      injection equal with _ further
      exact inductionHypothesis words (fun member => flat (List.mem_cons_of_mem _ member))
        (fun member => absent (List.mem_cons_of_mem _ member)) further

/-- A text without an opening parenthesis can be left out where a mark follows. -/
theorem opensAnywhere_flat (boundary : Bool) (text rest : Text) (mark : Char) (flat : '(' ∉ text)
    (gap : Text.isWordChar mark = false) (visible : Text.isBlank mark = false)
    (other : mark ≠ '(') :
    opensAnywhere boundary (text ++ mark :: rest) = opensAnywhere true rest := by
  induction text generalizing boundary with
  | nil => exact opensAnywhere_gap boundary mark rest gap
  | cons character text inductionHypothesis =>
    have closed : afterOpening? (character :: text ++ mark :: rest) = none := by
      cases opens : afterOpening? (character :: text ++ mark :: rest) with
      | none => rfl
      | some after =>
        obtain ⟨lead, equal, onlyWords⟩ := afterOpening?_eq_some _ after opens
        exact absurd equal (append_cons_ne_of_onlyWords _ rest lead after mark flat onlyWords gap
          visible other)
    rw [List.cons_append] at closed ⊢
    rw [opensAnywhere, closed, Option.isSome_none, Bool.and_false, Bool.false_or,
      inductionHypothesis _ fun member => flat (List.mem_cons_of_mem character member)]

end DumpRestore.Head
