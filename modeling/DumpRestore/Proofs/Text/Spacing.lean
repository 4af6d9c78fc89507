/-
This file counts what collapsing a text keeps, and says when it can be done piece by piece. No
visible character gets lost. The words of texts that stand behind one another are the words of each
of them exactly if no text runs on into the next one, that is, if a blank stands at every border, on
one side of it or on the other.
-/

import DumpRestore.Proofs.Text.Respacing
import Mathlib.Data.List.Chain

namespace DumpRestore.Text

/-! ### Visible characters -/

/-- How many characters of a text are not blank. -/
def visibleCount (text : Text) : Nat :=
  text.countP fun character => !isBlank character

theorem visibleCount_append (first second : Text) :
    visibleCount (first ++ second) = visibleCount first + visibleCount second :=
  List.countP_append

theorem visibleCount_cons_visible (character : Char) (rest : Text)
    (visible : isBlank character = false) :
    visibleCount (character :: rest) = visibleCount rest + 1 := by
  simp [visibleCount, visible]

theorem visibleCount_cons_blank (character : Char) (rest : Text)
    (blank : isBlank character = true) :
    visibleCount (character :: rest) = visibleCount rest := by
  simp [visibleCount, blank]

theorem visibleCount_of_visible (text : Text)
    (visible : ∀ character ∈ text, isBlank character = false) :
    visibleCount text = text.length :=
  List.countP_eq_length.mpr fun character member => by rw [visible character member]; rfl

theorem visibleCount_blanks (blanks : Text)
    (blank : ∀ character ∈ blanks, isBlank character = true) : visibleCount blanks = 0 :=
  List.countP_eq_zero.mpr fun character member => by simp [blank character member]

theorem visibleCount_squeeze (text : Text) : visibleCount (squeeze text) = visibleCount text := by
  induction text with
  | nil => rfl
  | cons character rest inductionHypothesis =>
    cases blank : isBlank character with
    | false =>
      rw [squeeze_cons_visible character rest blank, visibleCount_cons_visible _ _ blank,
        visibleCount_cons_visible _ _ blank, inductionHypothesis]
    | true =>
      rw [visibleCount_cons_blank _ _ blank, ← inductionHypothesis]
      cases continues : startsBlank rest with
      | true => rw [squeeze_cons_blanks character rest blank continues]
      | false =>
        rw [squeeze_cons_blank character rest blank continues, visibleCount_cons_blank ' ' _ rfl]

theorem visibleCount_trim (text : Text) : visibleCount (trim text) = visibleCount text := by
  obtain ⟨lead, tail, equal, leadBlank, tailBlank⟩ := exists_trim text
  have counted := congrArg visibleCount equal
  rw [visibleCount_append, visibleCount_append, visibleCount_blanks lead leadBlank,
    visibleCount_blanks tail tailBlank, Nat.zero_add, Nat.add_zero] at counted
  exact counted.symm

theorem visibleCount_collapse (text : Text) :
    visibleCount (collapse text) = visibleCount text := by
  rw [collapse_eq, visibleCount_squeeze, visibleCount_trim]

theorem visibleCount_spread_words (text : Text) :
    visibleCount (spread (words text)) = visibleCount text := by
  rcases spread_words_cases text with ⟨empty, equal⟩ | equal
  · rw [equal, ← visibleCount_trim text, empty]
  · rw [equal, visibleCount_cons_blank ' ' _ rfl, visibleCount_squeeze, visibleCount_trim]

/-! ### Borders -/

/-- Whether a text ends with a blank. -/
def endsBlank (text : Text) : Bool :=
  text.getLast?.any isBlank

/-- A text does not run on into the next one: a blank stands at the border. -/
def Parted (first second : Text) : Prop :=
  endsBlank first = true ∨ startsBlank second = true

instance : DecidableRel Parted :=
  fun first second =>
    inferInstanceAs (Decidable (endsBlank first = true ∨ startsBlank second = true))

theorem words_append_of_parted (first second : Text) (parted : Parted first second) :
    words (first ++ second) = words first ++ words second := by
  rcases parted with ends | starts
  · obtain ⟨last, isLast, blank⟩ := (Option.any_eq_true _ _).mp ends
    obtain ⟨init, rfl⟩ := List.getLast?_eq_some_iff.mp isLast
    rw [List.append_assoc, List.singleton_append, words_append_cons init second last blank,
      words_append_cons init [] last blank, words, List.append_nil]
  · cases second with
    | nil => cases starts
    | cons character second =>
      have blank : isBlank character = true := starts
      rw [words_append_cons first second character blank, words_cons_blank character second blank]

/-- How many words there are is told by the borders between blank and visible characters. -/
theorem length_words_cons_visible (character : Char) (rest : Text)
    (visible : isBlank character = false) (nonempty : rest ≠ []) :
    (words (character :: rest)).length =
      (words rest).length + if startsBlank rest then 1 else 0 := by
  cases starts : startsBlank rest with
  | true =>
    rw [words_cons_of_ends character rest visible (Or.inr starts), List.length_cons, if_pos rfl]
  | false =>
    obtain ⟨next, rest, rfl⟩ := List.exists_cons_of_ne_nil nonempty
    obtain ⟨word, others, equal, longer⟩ := words_cons_cons character next rest starts visible
    rw [longer, equal, if_neg Bool.false_ne_true]
    rfl

/-- Where a text runs on into the next one, the last word of the first and the first word of the
second are one. -/
theorem length_words_append_of_not_parted (first second : Text) (firstNonempty : first ≠ [])
    (secondNonempty : second ≠ []) (runsOn : ¬ Parted first second) :
    (words (first ++ second)).length + 1 = (words first).length + (words second).length := by
  rw [Parted, not_or, Bool.not_eq_true, Bool.not_eq_true] at runsOn
  obtain ⟨ends, starts⟩ := runsOn
  obtain ⟨init, last, rfl⟩ : ∃ init last, first = init ++ [last] :=
    ⟨_, _, (List.dropLast_concat_getLast firstNonempty).symm⟩
  have visible : isBlank last = false := by
    rwa [endsBlank, List.getLast?_concat] at ends
  clear ends firstNonempty
  induction init with
  | nil =>
    have one : words [last] = [[last]] := words_cons_of_ends last [] visible (Or.inl rfl)
    rw [List.nil_append, List.singleton_append,
      length_words_cons_visible last second visible secondNonempty, starts, one]
    exact Nat.add_comm _ _
  | cons character init inductionHypothesis =>
    have same : startsBlank (init ++ [last] ++ second) = startsBlank (init ++ [last]) := by
      cases init <;> rfl
    rw [List.cons_append, List.cons_append]
    cases blank : isBlank character with
    | true =>
      rw [words_cons_blank character _ blank, words_cons_blank character _ blank,
        inductionHypothesis]
    | false =>
      rw [length_words_cons_visible character _ blank (by simp), same,
        length_words_cons_visible character _ blank (by simp)]
      omega

theorem startsBlank_append (first second : Text) (nonempty : first ≠ []) :
    startsBlank (first ++ second) = startsBlank first := by
  obtain ⟨character, rest, rfl⟩ := List.exists_cons_of_ne_nil nonempty
  rfl

theorem length_words_flatten_le (texts : List Text) (nonempty : ∀ text ∈ texts, text ≠ []) :
    (words texts.flatten).length ≤ (texts.flatMap words).length := by
  induction texts with
  | nil => exact Nat.le_refl _
  | cons text texts inductionHypothesis =>
    have further := inductionHypothesis fun other member =>
      nonempty other (List.mem_cons_of_mem text member)
    rw [List.flatten_cons, List.flatMap_cons, List.length_append]
    by_cases parted : Parted text texts.flatten
    · rw [words_append_of_parted _ _ parted, List.length_append]
      omega
    · cases texts with
      | nil => simp
      | cons second texts =>
        have secondNonempty := nonempty second (List.mem_cons_of_mem text List.mem_cons_self)
        have glued := length_words_append_of_not_parted text (second :: texts).flatten
          (nonempty text List.mem_cons_self) (by simp [secondNonempty]) parted
        omega

/-- The words of texts behind one another are those of each text exactly if no text runs on into the
next one. -/
theorem words_flatten_iff (texts : List Text) (nonempty : ∀ text ∈ texts, text ≠ []) :
    words texts.flatten = texts.flatMap words ↔ texts.IsChain Parted := by
  induction texts with
  | nil => exact iff_of_true rfl .nil
  | cons text texts inductionHypothesis =>
    have othersNonempty : ∀ other ∈ texts, other ≠ [] := fun other member =>
      nonempty other (List.mem_cons_of_mem text member)
    cases texts with
    | nil => exact iff_of_true (by simp) (.singleton text)
    | cons second texts =>
      have secondNonempty := othersNonempty second List.mem_cons_self
      have border : Parted text (second :: texts).flatten ↔ Parted text second := by
        rw [Parted, List.flatten_cons, startsBlank_append second _ secondNonempty, Parted]
      rw [List.isChain_cons_cons, ← inductionHypothesis othersNonempty, ← border,
        List.flatten_cons, List.flatMap_cons]
      constructor
      · intro equal
        have parted : Parted text (second :: texts).flatten := by
          by_contra runsOn
          have glued := length_words_append_of_not_parted text (second :: texts).flatten
            (nonempty text List.mem_cons_self) (by simp [secondNonempty]) runsOn
          have bound := length_words_flatten_le (second :: texts) othersNonempty
          rw [equal, List.length_append] at glued
          omega
        rw [words_append_of_parted _ _ parted] at equal
        exact ⟨parted, List.append_cancel_left equal⟩
      · rintro ⟨parted, equal⟩
        rw [words_append_of_parted _ _ parted, equal]

/-! ### Collapsed texts -/

theorem words_collapse (text : Text) : words (collapse text) = words text := by
  rw [collapse_eq, words_squeeze, words_trim]

theorem singleSpaced_collapse (text : Text) : SingleSpaced (collapse text) :=
  collapse_eq text ▸ singleSpaced_squeeze _

theorem words_append_spread (text : Text) (texts : List Text)
    (solid : ∀ other ∈ texts, Solid other) :
    words (text ++ spread texts) = words text ++ texts := by
  cases texts with
  | nil => rw [spread, List.flatMap_nil, List.append_nil, List.append_nil]
  | cons first texts =>
    rw [words_append_of_parted text _ (Or.inr rfl), words_spread _ solid]

/-- A text is written as it is with the words of others behind it, a space in front of each, exactly
where collapsing all of them gives the same: its own blanks are single spaces, and none of the texts
runs on into the next one. -/
theorem append_spread_eq_collapse_iff (first : Text) (texts : List Text) (trimmed : Trimmed first)
    (firstNonempty : first ≠ []) (nonempty : ∀ text ∈ texts, text ≠ []) :
    first ++ spread (texts.flatMap words) = collapse (first ++ texts.flatten) ↔
      SingleSpaced first ∧ (first :: texts).IsChain Parted := by
  have allNonempty : ∀ text ∈ first :: texts, text ≠ [] :=
    List.forall_mem_cons.mpr ⟨firstNonempty, nonempty⟩
  have solid : ∀ word ∈ texts.flatMap words, Solid word := by
    intro word member
    obtain ⟨text, _, inText⟩ := List.mem_flatMap.mp member
    exact solid_of_mem_words text word inText
  rw [← words_flatten_iff _ allNonempty, List.flatten_cons, List.flatMap_cons]
  constructor
  · intro equal
    constructor
    · exact (singleSpaced_collapse (first ++ texts.flatten)).of_isInfix
        (equal ▸ (List.prefix_append first _).isInfix)
    · rw [← words_collapse, ← equal, words_append_spread first _ solid]
  · rintro ⟨single, equal⟩
    have firstWords : words first ≠ [] := words_ne_nil_of_trimmed first trimmed firstNonempty
    have written : spread (words first) = ' ' :: first := by
      rw [spread_words_of_trimmed first trimmed firstNonempty,
        (squeeze_eq_self_iff first).mpr single]
    have joined := spread_of_ne_nil (words first ++ texts.flatMap words) (by simp [firstWords])
    rw [spread_append, written, List.cons_append] at joined
    rw [collapse, equal]
    exact List.tail_eq_of_cons_eq joined

end DumpRestore.Text
