/-
This file proves that squeezing the blanks of a text changes nothing about what is read in it: the
same keywords stand at its start, and its words are the same. Nor does writing its words out again
with a space in front of each, which is how the parts of a definition are put together.
-/

import DumpRestore.Proofs.Text.Blanks
import Mathlib.Data.List.TakeWhile

namespace DumpRestore.Text

/-! ### Squeezed texts -/

theorem skipBlanks_squeeze (text : Text) :
    skipBlanks (squeeze text) = squeeze (skipBlanks text) := by
  have visible : skipBlanks (squeeze (skipBlanks text)) = squeeze (skipBlanks text) :=
    skipBlanks_of_startsVisible _
      ((startsBlank_squeeze _).trans (startsBlank_skipBlanks text))
  cases starts : startsBlank text with
  | true => rw [squeeze_of_startsBlank text starts, skipBlanks_cons_blank ' ' _ rfl, visible]
  | false =>
    rw [skipBlanks_of_startsVisible text starts] at visible ⊢
    exact visible

/-- A blank, as it stands or squeezed, starts no keyword. -/
theorem keyword?_of_startsBlank (letter : Char) (letters text : Text)
    (lower : (letter :: letters).all Char.isLower = true) (starts : startsBlank text = true) :
    keyword? (letter :: letters) text = none := by
  have ends : EndsWord text := by
    cases text with
    | nil => cases starts
    | cons character rest => exact endsWord_cons character rest (isWordChar_of_isBlank _ starts)
  exact keyword?_append (letter :: letters) [] text lower ends

/-- A keyword at the start of a text stands at the start of the squeezed text. -/
theorem keyword?_squeeze (keyword text : Text) (lower : keyword.all Char.isLower = true) :
    keyword? keyword (squeeze text) = (keyword? keyword text).map squeeze := by
  induction keyword generalizing text with
  | nil => rfl
  | cons letter letters inductionHypothesis =>
    cases starts : startsBlank text with
    | true =>
      rw [keyword?_of_startsBlank letter letters text lower starts,
        keyword?_of_startsBlank letter letters _ lower ((startsBlank_squeeze text).trans starts)]
      rfl
    | false =>
      cases text with
      | nil => rfl
      | cons character rest =>
        rw [List.all_cons, Bool.and_eq_true] at lower
        rw [squeeze_cons_visible character rest starts, keyword?, keyword?]
        split
        · exact inductionHypothesis rest lower.2
        · rfl

theorem OnlyWords.squeeze {text : Text} (onlyWords : OnlyWords text) :
    OnlyWords (squeeze text) := by
  induction text with
  | nil => exact onlyWords
  | cons character rest inductionHypothesis =>
    have further := inductionHypothesis fun other member =>
      onlyWords other (List.mem_cons_of_mem character member)
    rw [Text.squeeze]
    split
    · split
      · exact further
      · exact (onlyWords_blank ' ' rfl).append further
    · exact (onlyWords.singleton character List.mem_cons_self).append further

/-! ### Words -/

/-- A text that consists of visible characters, at least one. -/
structure Solid (text : Text) : Prop where
  nonempty : text ≠ []
  visible : ∀ character ∈ text, isBlank character = false

theorem Solid.words {text : Text} (solid : Solid text) : words text = [text] := by
  obtain ⟨nonempty, visible⟩ := solid
  induction text with
  | nil => exact absurd rfl nonempty
  | cons character rest inductionHypothesis =>
    have first := visible character List.mem_cons_self
    cases rest with
    | nil => exact words_cons_of_ends character [] first (Or.inl rfl)
    | cons next rest =>
      have further := inductionHypothesis (List.cons_ne_nil next rest) fun other member =>
        visible other (List.mem_cons_of_mem character member)
      obtain ⟨word, others, equal, longer⟩ := words_cons_cons character next rest
        (visible next (List.mem_cons_of_mem character List.mem_cons_self)) first
      rw [further] at equal
      cases equal
      exact longer

theorem Solid.trimmed {text : Text} (solid : Solid text) : Trimmed text :=
  ⟨fun character member => solid.visible character (List.mem_of_head? member),
    fun character member => solid.visible character (List.mem_of_getLast? member)⟩

theorem Solid.squeeze {text : Text} (solid : Solid text) : squeeze text = text := by
  rw [← collapse_of_trimmed text solid.trimmed, collapse, solid.words]
  rfl

theorem solid_of_mem_words (text word : Text) (member : word ∈ words text) : Solid word := by
  fun_induction words text generalizing word with
  | case1 | case2 => cases member
  | case3 character visible =>
    rw [List.mem_singleton.mp member]
    refine ⟨List.cons_ne_nil _ _, fun other inWord => ?_⟩
    rw [List.mem_singleton.mp inWord]
    exact Bool.eq_false_iff.mpr visible
  | case4 character next rest blank inductionHypothesis => exact inductionHypothesis word member
  | case5 character next rest visible blank inductionHypothesis =>
    rcases List.mem_cons.mp member with rfl | behind
    · refine ⟨List.cons_ne_nil _ _, fun other inWord => ?_⟩
      rw [List.mem_singleton.mp inWord]
      exact Bool.eq_false_iff.mpr visible
    · exact inductionHypothesis word behind
  | case6 character next rest visible nextVisible equal =>
    exact absurd equal (words_ne_nil next rest (Bool.eq_false_iff.mpr nextVisible))
  | case7 character next rest visible nextVisible first others equal inductionHypothesis =>
    rw [equal] at inductionHypothesis
    rcases List.mem_cons.mp member with rfl | behind
    · refine ⟨List.cons_ne_nil _ _, fun other inWord => ?_⟩
      rcases List.mem_cons.mp inWord with rfl | inFirst
      · exact Bool.eq_false_iff.mpr visible
      · exact (inductionHypothesis first List.mem_cons_self).visible other inFirst
    · exact inductionHypothesis word (List.mem_cons_of_mem first behind)

theorem words_squeeze (text : Text) : words (squeeze text) = words text := by
  induction text with
  | nil => rfl
  | cons character rest inductionHypothesis =>
    cases blank : isBlank character with
    | true =>
      rw [words_cons_blank character rest blank]
      cases continues : startsBlank rest with
      | true => rw [squeeze_cons_blanks character rest blank continues, inductionHypothesis]
      | false =>
        rw [squeeze_cons_blank character rest blank continues, words_cons_blank ' ' _ rfl,
          inductionHypothesis]
    | false =>
      rw [squeeze_cons_visible character rest blank]
      cases rest with
      | nil => rfl
      | cons next rest =>
        cases nextBlank : isBlank next with
        | true =>
          have starts : startsBlank (squeeze (next :: rest)) = true :=
            (startsBlank_squeeze _).trans nextBlank
          have original : startsBlank (next :: rest) = true := nextBlank
          rw [words_cons_of_ends character _ blank (Or.inr starts), inductionHypothesis,
            words_cons_of_ends character _ blank (Or.inr original)]
        | false =>
          rw [squeeze_cons_visible next rest nextBlank] at inductionHypothesis ⊢
          obtain ⟨word, others, equal, longer⟩ :=
            words_cons_cons character next (squeeze rest) nextBlank blank
          obtain ⟨_, _, sameWords, sameLonger⟩ :=
            words_cons_cons character next rest nextBlank blank
          rw [inductionHypothesis, sameWords] at equal
          cases equal
          rw [longer, sameLonger]

theorem collapse_squeeze (text : Text) : collapse (squeeze text) = collapse text := by
  rw [collapse, words_squeeze, collapse]

/-! ### Words written out -/

/-- Texts one after the other, a space in front of each. -/
def spread (texts : List Text) : Text :=
  texts.flatMap fun text => ' ' :: text

theorem spread_append (first second : List Text) :
    spread (first ++ second) = spread first ++ spread second :=
  List.flatMap_append

theorem endsWord_spread (texts : List Text) : EndsWord (spread texts) := by
  cases texts with
  | nil => exact endsWord_nil
  | cons text texts => exact endsWord_cons ' ' _ rfl

/-- Joined texts are the same texts spread out, without the space in front. -/
theorem spread_of_ne_nil (texts : List Text) (nonempty : texts ≠ []) :
    spread texts = ' ' :: join " " texts := by
  induction texts with
  | nil => exact absurd rfl nonempty
  | cons text texts inductionHypothesis =>
    rw [spread, List.flatMap_cons, ← spread]
    cases texts with
    | nil => rw [spread, List.flatMap_nil, List.append_nil]; rfl
    | cons second texts =>
      rw [inductionHypothesis (List.cons_ne_nil second texts), join_cons_cons, List.append_assoc]
      rfl

/-- Words written out are read as the same words. -/
theorem words_spread (texts : List Text) (solid : ∀ text ∈ texts, Solid text) :
    words (spread texts) = texts := by
  induction texts with
  | nil => rfl
  | cons text texts inductionHypothesis =>
    have first := (solid text List.mem_cons_self).words
    have further := inductionHypothesis fun other member =>
      solid other (List.mem_cons_of_mem text member)
    rw [spread, List.flatMap_cons, ← spread, List.cons_append, words_cons_blank ' ' _ rfl]
    cases texts with
    | nil => rw [spread, List.flatMap_nil, List.append_nil, first]
    | cons second texts =>
      rw [spread_of_ne_nil _ (List.cons_ne_nil second texts)] at further ⊢
      rw [words_append_cons text _ ' ' rfl, first, ← words_cons_blank ' ' _ rfl, further]
      rfl

/-- The words of a text written out are its collapsed form, with a space in front of it if there is
any word. -/
theorem spread_words (text : Text) (nonblank : words text ≠ []) :
    spread (words text) = ' ' :: collapse text :=
  spread_of_ne_nil _ nonblank

theorem words_ne_nil_of_trimmed (text : Text) (trimmed : Trimmed text) (nonempty : text ≠ []) :
    words text ≠ [] := by
  obtain ⟨first, rest, rfl, visible⟩ := trimmed.exists_cons nonempty
  exact words_ne_nil first rest visible

theorem spread_words_of_trimmed (text : Text) (trimmed : Trimmed text) (nonempty : text ≠ []) :
    spread (words text) = ' ' :: squeeze text := by
  rw [spread_words text (words_ne_nil_of_trimmed text trimmed nonempty),
    collapse_of_trimmed text trimmed]

theorem squeeze_blanks (blanks : Text) (nonempty : blanks ≠ [])
    (blank : ∀ character ∈ blanks, isBlank character = true) : squeeze blanks = [' '] := by
  have starts : startsBlank blanks = true := by
    obtain ⟨first, rest, rfl⟩ := List.exists_cons_of_ne_nil nonempty
    exact blank first List.mem_cons_self
  have skipped : skipBlanks blanks = [] := List.dropWhile_eq_nil_iff.mpr blank
  rw [squeeze_of_startsBlank blanks starts, skipped]
  rfl

/-- A text is its trimmed form between blanks. -/
theorem exists_trim (text : Text) :
    ∃ lead tail, text = lead ++ trim text ++ tail ∧
      (∀ character ∈ lead, isBlank character = true) ∧
      ∀ character ∈ tail, isBlank character = true := by
  obtain ⟨lead, equal, leadBlank⟩ := exists_blanks text
  obtain ⟨tail, rest, tailBlank⟩ := exists_trailingBlanks (skipBlanks text)
  refine ⟨lead, tail, ?_, leadBlank, tailBlank⟩
  rw [trim, List.append_assoc, ← rest]
  exact equal

/-- Collapsed texts, the empty ones left out, are spread out as their words are. -/
theorem spread_collapse (texts : List Text) :
    spread ((texts.map collapse).filter (!·.isEmpty)) = spread (texts.flatMap words) := by
  induction texts with
  | nil => rfl
  | cons text texts inductionHypothesis =>
    rw [List.map_cons, List.filter_cons, List.flatMap_cons, spread_append, ← inductionHypothesis]
    cases equal : words text with
    | nil =>
      rw [collapse, equal]
      rfl
    | cons word others =>
      have nonblank : words text ≠ [] := equal ▸ List.cons_ne_nil word others
      have wordNonempty : word ≠ [] :=
        (solid_of_mem_words text word (equal ▸ List.mem_cons_self)).nonempty
      have visible : collapse text ≠ [] := by
        rw [collapse, equal]
        exact join_ne_nil " " word others wordNonempty
      rw [List.isEmpty_eq_false_iff.mpr visible, Bool.not_false, if_pos rfl, ← equal,
        spread_words text nonblank]
      rfl

/-- The words of a text written out are its trimmed form with its blanks squeezed, a space in front;
nothing where trimming leaves nothing. -/
theorem spread_words_cases (text : Text) :
    (trim text = [] ∧ spread (words text) = []) ∨
      spread (words text) = ' ' :: squeeze (trim text) := by
  by_cases empty : trim text = []
  · refine Or.inl ⟨empty, ?_⟩
    rw [← words_trim, empty]
    rfl
  · refine Or.inr ?_
    rw [← words_trim, spread_words_of_trimmed _ (trimmed_trim text) empty]

/-- Squeezing a text that starts with a blank and has a space put behind it writes out its words. -/
theorem squeeze_append_space (text : Text) (starts : startsBlank text = true) :
    squeeze (text ++ [' ']) = spread (words text) ++ [' '] := by
  obtain ⟨lead, tail, equal, leadBlank, tailBlank⟩ := exists_trim text
  have trimmed := trimmed_trim text
  have tailSpace : ∀ character ∈ tail ++ [' '], isBlank character = true := by
    intro character member
    rcases List.mem_append.mp member with inTail | inSpace
    · exact tailBlank character inTail
    · rw [List.mem_singleton.mp inSpace]
      rfl
  have nonempty : tail ++ [' '] ≠ [] := List.append_ne_nil_of_right_ne_nil _ (List.cons_ne_nil _ _)
  have sameWords := words_trim text
  generalize trim text = middle at equal trimmed sameWords
  by_cases empty : middle = []
  · subst empty
    have blank : ∀ character ∈ lead ++ (tail ++ [' ']), isBlank character = true := by
      intro character member
      exact (List.mem_append.mp member).elim (leadBlank character) (tailSpace character)
    rw [← sameWords, equal, List.append_nil, List.append_assoc,
      squeeze_blanks _ (List.append_ne_nil_of_right_ne_nil _ nonempty) blank]
    rfl
  · have leadNonempty : lead ≠ [] := by
      rintro rfl
      obtain ⟨first, rest, rfl, visible⟩ := trimmed.exists_cons empty
      rw [equal] at starts
      exact Bool.eq_false_iff.mp visible starts
    rw [← sameWords, spread_words_of_trimmed middle trimmed empty, equal, List.append_assoc,
      squeeze_append_trimmed lead middle _ trimmed empty, squeeze_blanks lead leadNonempty leadBlank,
      squeeze_blanks _ nonempty tailSpace]
    rfl

end DumpRestore.Text
