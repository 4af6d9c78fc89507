/-
This file describes what becomes of the blanks of a text. Trimming takes them away at the ends,
squeezing writes every run of them as one space, and collapsing does both: it is squeezing what
trimming leaves. A visible character stays where it is in all three, so a text is squeezed piece
by piece wherever it is cut at one.
-/

import DumpRestore.Proofs.Text.Basic
import DumpRestore.Proofs.Text.Words

namespace DumpRestore.Text

/-! ### Blanks at the ends -/

/-- Whether a text starts with a blank. -/
def startsBlank (text : Text) : Bool :=
  text.head?.any isBlank

/-- A text that neither starts nor ends with a blank. -/
structure Trimmed (text : Text) : Prop where
  starts : ∀ character ∈ text.head?, isBlank character = false
  ends : ∀ character ∈ text.getLast?, isBlank character = false

theorem trimmed_nil : Trimmed [] :=
  ⟨fun _ member => (by cases member), fun _ member => (by cases member)⟩

theorem Trimmed.append {first second : Text} (firstTrimmed : Trimmed first)
    (secondTrimmed : Trimmed second) (firstNonempty : first ≠ []) (secondNonempty : second ≠ [])
    (between : Text) : Trimmed (first ++ (between ++ second)) := by
  constructor
  · intro character member
    refine firstTrimmed.starts character ?_
    rwa [List.head?_append, Option.or_of_isSome (List.isSome_head?.mpr firstNonempty)] at member
  · intro character member
    refine secondTrimmed.ends character ?_
    rwa [← List.append_assoc, List.getLast?_append,
      Option.or_of_isSome (List.getLast?_isSome.mpr secondNonempty)] at member

theorem skipBlanks_cons_blank (character : Char) (rest : Text)
    (blank : isBlank character = true) : skipBlanks (character :: rest) = skipBlanks rest := by
  rw [skipBlanks, List.dropWhile_cons, if_pos blank]
  rfl

theorem skipBlanks_cons_visible (character : Char) (rest : Text)
    (visible : isBlank character = false) :
    skipBlanks (character :: rest) = character :: rest := by
  rw [skipBlanks, List.dropWhile_cons, visible, if_neg Bool.false_ne_true]

theorem skipBlanks_of_startsVisible (text : Text) (starts : startsBlank text = false) :
    skipBlanks text = text := by
  cases text with
  | nil => rfl
  | cons character rest => exact skipBlanks_cons_visible character rest starts

/-- A text up to a visible character loses its leading blanks alone. -/
theorem skipBlanks_append_cons (text rest : Text) (character : Char)
    (visible : isBlank character = false) :
    skipBlanks (text ++ character :: rest) = skipBlanks text ++ character :: rest := by
  induction text with
  | nil => exact skipBlanks_cons_visible character rest visible
  | cons first text inductionHypothesis =>
    rw [List.cons_append]
    cases blank : isBlank first with
    | true =>
      rw [skipBlanks_cons_blank first _ blank, skipBlanks_cons_blank first _ blank,
        inductionHypothesis]
    | false =>
      rw [skipBlanks_cons_visible first _ blank, skipBlanks_cons_visible first _ blank,
        List.cons_append]

theorem startsBlank_skipBlanks (text : Text) : startsBlank (skipBlanks text) = false := by
  induction text with
  | nil => rfl
  | cons character rest inductionHypothesis =>
    cases blank : isBlank character with
    | true => rw [skipBlanks_cons_blank character rest blank, inductionHypothesis]
    | false =>
      rw [skipBlanks_cons_visible character rest blank]
      exact blank

/-- A text from a visible character on loses its trailing blanks alone. -/
theorem dropTrailingBlanks_append_cons (text rest : Text) (character : Char)
    (visible : isBlank character = false) :
    dropTrailingBlanks (text ++ character :: rest) =
      text ++ character :: dropTrailingBlanks rest := by
  have reversed : (text ++ character :: rest).reverse =
      rest.reverse ++ character :: text.reverse := by
    rw [List.reverse_append, List.reverse_cons, List.append_assoc, List.singleton_append]
  have skipped := skipBlanks_append_cons rest.reverse text.reverse character visible
  rw [skipBlanks, skipBlanks] at skipped
  rw [dropTrailingBlanks, reversed, skipped, List.reverse_append, List.reverse_cons,
    List.reverse_reverse, List.append_assoc, List.singleton_append, dropTrailingBlanks]

/-- What is dropped at the end of a text are blanks. -/
theorem exists_trailingBlanks (text : Text) :
    ∃ blanks, text = dropTrailingBlanks text ++ blanks ∧
      ∀ character ∈ blanks, isBlank character = true := by
  obtain ⟨blanks, equal, blank⟩ := exists_blanks text.reverse
  refine ⟨blanks.reverse, ?_, fun character member => blank character (List.mem_reverse.mp member)⟩
  have reversed := congrArg List.reverse equal
  rwa [List.reverse_reverse, List.reverse_append] at reversed

theorem trim_of_trimmed (text : Text) (trimmed : Trimmed text) : trim text = text := by
  cases text with
  | nil => rfl
  | cons first rest =>
    rw [trim, skipBlanks_cons_visible first rest (trimmed.starts first rfl)]
    obtain ⟨init, last, equal⟩ : ∃ init last, first :: rest = init ++ [last] :=
      ⟨_, _, (List.dropLast_concat_getLast (List.cons_ne_nil first rest)).symm⟩
    rw [equal]
    refine dropTrailingBlanks_append_cons init [] last (trimmed.ends last ?_)
    rw [equal]
    exact List.getLast?_concat

theorem trim_sublist (text : Text) : (trim text).Sublist text := by
  have ends := List.dropWhile_sublist isBlank (l := (skipBlanks text).reverse)
  have inSkipped := List.reverse_sublist.mpr ends
  rw [List.reverse_reverse] at inSkipped
  exact inSkipped.trans (List.dropWhile_sublist isBlank)

theorem trimmed_trim (text : Text) : Trimmed (trim text) := by
  constructor
  · -- Trailing blanks are dropped behind the first character, which is visible.
    cases skipped : skipBlanks text with
    | nil =>
      rw [trim, skipped]
      intro character member
      cases member
    | cons first rest =>
      have visible : isBlank first = false := by
        have starts := startsBlank_skipBlanks text
        rwa [skipped] at starts
      rw [trim, skipped, ← List.nil_append (first :: rest),
        dropTrailingBlanks_append_cons [] rest first visible]
      intro character member
      cases member
      exact visible
  · intro character member
    rw [trim, dropTrailingBlanks, List.getLast?_reverse] at member
    have head := List.head?_dropWhile_not isBlank (skipBlanks text).reverse
    rw [Option.mem_def.mp member] at head
    exact head

/-! ### Words -/

theorem words_cons_blank (character : Char) (rest : Text) (blank : isBlank character = true) :
    words (character :: rest) = words rest := by
  cases rest with
  | nil => exact if_pos blank
  | cons next rest => rw [words, if_pos blank]

/-- A visible character in front of a blank or at the end is a word, or the end of one. -/
theorem words_cons_of_ends (character : Char) (rest : Text) (visible : isBlank character = false)
    (ends : rest = [] ∨ startsBlank rest = true) :
    words (character :: rest) = [character] :: words rest := by
  cases rest with
  | nil => exact if_neg (Bool.eq_false_iff.mp visible)
  | cons next rest =>
    have blank : isBlank next = true := ends.resolve_left (List.cons_ne_nil next rest)
    rw [words, visible, if_neg Bool.false_ne_true, if_pos blank]

theorem words_ne_nil (character : Char) (rest : Text) (visible : isBlank character = false) :
    words (character :: rest) ≠ [] := by
  cases rest with
  | nil => rw [words, visible]; exact List.cons_ne_nil _ _
  | cons next rest =>
    rw [words, visible, if_neg Bool.false_ne_true]
    split
    · exact List.cons_ne_nil _ _
    · split <;> exact List.cons_ne_nil _ _

/-- A visible character in front of another one belongs to the same word. -/
theorem words_cons_cons (character next : Char) (rest : Text) (visible : isBlank next = false)
    (firstVisible : isBlank character = false) :
    ∃ word others, words (next :: rest) = word :: others ∧
      words (character :: next :: rest) = (character :: word) :: others := by
  obtain ⟨word, others, equal⟩ := List.exists_cons_of_ne_nil (words_ne_nil next rest visible)
  refine ⟨word, others, equal, ?_⟩
  rw [words, firstVisible, visible, if_neg Bool.false_ne_true, if_neg Bool.false_ne_true, equal]

theorem words_skipBlanks (text : Text) : words (skipBlanks text) = words text := by
  induction text with
  | nil => rfl
  | cons character rest inductionHypothesis =>
    cases blank : isBlank character with
    | true =>
      rw [skipBlanks_cons_blank character rest blank, inductionHypothesis,
        words_cons_blank character rest blank]
    | false => rw [skipBlanks_cons_visible character rest blank]

/-- A blank ends a word, so that the words of a text are read piece by piece where it is cut at a
blank. -/
theorem words_append_cons (text rest : Text) (character : Char)
    (blank : isBlank character = true) :
    words (text ++ character :: rest) = words text ++ words rest := by
  fun_induction words text with
  | case1 => exact words_cons_blank character rest blank
  | case2 first firstBlank =>
    rw [List.singleton_append, words_cons_blank first _ firstBlank,
      words_cons_blank character rest blank, List.nil_append]
  | case3 first firstVisible =>
    have ends : startsBlank (character :: rest) = true := blank
    rw [List.singleton_append, words_cons_of_ends first _ (Bool.eq_false_iff.mpr firstVisible)
      (Or.inr ends), words_cons_blank character rest blank, List.singleton_append]
  | case4 first next tail firstBlank inductionHypothesis =>
    rw [List.cons_append, words_cons_blank first _ firstBlank, inductionHypothesis]
  | case5 first next tail firstVisible nextBlank inductionHypothesis =>
    have ends : startsBlank (next :: tail ++ character :: rest) = true := nextBlank
    rw [List.cons_append, words_cons_of_ends first _ (Bool.eq_false_iff.mpr firstVisible)
      (Or.inr ends), inductionHypothesis, List.cons_append]
  | case6 first next tail firstVisible nextVisible equal inductionHypothesis =>
    exact absurd equal (words_ne_nil next tail (Bool.eq_false_iff.mpr nextVisible))
  | case7 first next tail firstVisible nextVisible word others equal inductionHypothesis =>
    rw [List.cons_append, List.cons_append, words, if_neg firstVisible, if_neg nextVisible,
      ← List.cons_append, inductionHypothesis, equal]
    rfl

theorem words_blanks (blanks : Text) (blank : ∀ character ∈ blanks, isBlank character = true) :
    words blanks = [] := by
  induction blanks with
  | nil => rfl
  | cons character blanks inductionHypothesis =>
    rw [words_cons_blank character blanks (blank character List.mem_cons_self),
      inductionHypothesis fun other member => blank other (List.mem_cons_of_mem character member)]

theorem words_append_blanks (text blanks : Text)
    (blank : ∀ character ∈ blanks, isBlank character = true) :
    words (text ++ blanks) = words text := by
  cases blanks with
  | nil => rw [List.append_nil]
  | cons character blanks =>
    rw [words_append_cons text blanks character (blank character List.mem_cons_self),
      words_blanks blanks fun other member => blank other (List.mem_cons_of_mem character member),
      List.append_nil]

theorem words_append_space (text : Text) : words (text ++ [' ']) = words text :=
  words_append_blanks text [' '] (List.forall_mem_singleton.mpr rfl)

theorem words_trim (text : Text) : words (trim text) = words text := by
  obtain ⟨blanks, equal, blank⟩ := exists_trailingBlanks (skipBlanks text)
  rw [← words_skipBlanks text, trim]
  generalize dropTrailingBlanks (skipBlanks text) = trimmed at equal
  rw [equal, words_append_blanks trimmed blanks blank]

/-! ### Squeezing -/

/-- A text with one space in the place of every run of blanks. -/
def squeeze : Text → Text
  | [] => []
  | character :: rest =>
    if isBlank character then
      if startsBlank rest then squeeze rest else ' ' :: squeeze rest
    else character :: squeeze rest

theorem squeeze_cons_visible (character : Char) (rest : Text)
    (visible : isBlank character = false) :
    squeeze (character :: rest) = character :: squeeze rest := by
  rw [squeeze, visible, if_neg Bool.false_ne_true]

theorem squeeze_cons_blank (character : Char) (rest : Text) (blank : isBlank character = true)
    (ends : startsBlank rest = false) : squeeze (character :: rest) = ' ' :: squeeze rest := by
  rw [squeeze, if_pos blank, ends, if_neg Bool.false_ne_true]

theorem squeeze_cons_blanks (character : Char) (rest : Text) (blank : isBlank character = true)
    (continues : startsBlank rest = true) : squeeze (character :: rest) = squeeze rest := by
  rw [squeeze, if_pos blank, if_pos continues]

/-- A text is squeezed piece by piece where it is cut at a visible character. -/
theorem squeeze_append_cons (text rest : Text) (character : Char)
    (visible : isBlank character = false) :
    squeeze (text ++ character :: rest) = squeeze text ++ character :: squeeze rest := by
  induction text with
  | nil => exact squeeze_cons_visible character rest visible
  | cons first text inductionHypothesis =>
    have continues : startsBlank (text ++ character :: rest) = startsBlank text := by
      cases text with
      | nil => exact visible
      | cons second text => rfl
    rw [List.cons_append, squeeze, squeeze, continues, inductionHypothesis]
    split
    · split
      · rfl
      · rw [List.cons_append]
    · rw [List.cons_append]

/-- A text is squeezed piece by piece where the second piece starts with no blank. -/
theorem squeeze_append_of_startsVisible (text rest : Text) (starts : startsBlank rest = false) :
    squeeze (text ++ rest) = squeeze text ++ squeeze rest := by
  cases rest with
  | nil =>
    rw [List.append_nil]
    exact (List.append_nil _).symm
  | cons character rest =>
    rw [squeeze_append_cons text rest character starts, squeeze_cons_visible character rest starts]

/-- Leading blanks become one space. -/
theorem squeeze_of_startsBlank (text : Text) (starts : startsBlank text = true) :
    squeeze text = ' ' :: squeeze (skipBlanks text) := by
  induction text with
  | nil => cases starts
  | cons character rest inductionHypothesis =>
    have blank : isBlank character = true := starts
    rw [skipBlanks_cons_blank character rest blank]
    cases continues : startsBlank rest with
    | true => rw [squeeze_cons_blanks character rest blank continues, inductionHypothesis continues]
    | false =>
      rw [squeeze_cons_blank character rest blank continues,
        skipBlanks_of_startsVisible rest continues]

/-- A space behind a blank is squeezed into it. -/
theorem squeeze_concat_space (text : Text) (character : Char) (blank : isBlank character = true) :
    squeeze (text ++ [character] ++ [' ']) = squeeze (text ++ [character]) := by
  induction text with
  | nil =>
    rw [List.nil_append, List.singleton_append, squeeze_cons_blanks character _ blank rfl,
      squeeze_cons_blank character [] blank rfl]
    rfl
  | cons first text inductionHypothesis =>
    have continues : startsBlank (text ++ [character] ++ [' ']) =
        startsBlank (text ++ [character]) := by
      cases text <;> rfl
    rw [List.cons_append, List.cons_append, squeeze, squeeze, continues, inductionHypothesis]

theorem startsBlank_squeeze (text : Text) : startsBlank (squeeze text) = startsBlank text := by
  cases starts : startsBlank text with
  | true => rw [squeeze_of_startsBlank text starts]; rfl
  | false =>
    cases text with
    | nil => rfl
    | cons character rest =>
      rw [squeeze_cons_visible character rest starts]
      exact starts

theorem squeeze_squeeze (text : Text) : squeeze (squeeze text) = squeeze text := by
  induction text with
  | nil => rfl
  | cons character rest inductionHypothesis =>
    cases blank : isBlank character with
    | false =>
      rw [squeeze_cons_visible character rest blank, squeeze_cons_visible character _ blank,
        inductionHypothesis]
    | true =>
      cases continues : startsBlank rest with
      | true => rw [squeeze_cons_blanks character rest blank continues, inductionHypothesis]
      | false =>
        rw [squeeze_cons_blank character rest blank continues,
          squeeze_cons_blank ' ' _ rfl (by rw [startsBlank_squeeze, continues]),
          inductionHypothesis]

theorem Trimmed.squeeze {text : Text} (trimmed : Trimmed text) : Trimmed (squeeze text) := by
  constructor
  · cases text with
    | nil =>
      intro character member
      cases member
    | cons first rest =>
      rw [squeeze_cons_visible first rest (trimmed.starts first rfl)]
      exact trimmed.starts
  · rcases List.eq_nil_or_concat text with rfl | ⟨init, last, rfl⟩
    · intro character member
      cases member
    · rw [List.concat_eq_append] at trimmed ⊢
      have visible := trimmed.ends last List.getLast?_concat
      rw [squeeze_append_cons init [] last visible]
      intro character member
      rw [show Text.squeeze [] = [] from rfl, List.getLast?_concat] at member
      cases member
      exact visible

/-! ### Collapsing -/

theorem collapse_trim (text : Text) : collapse (trim text) = collapse text := by
  rw [collapse, words_trim, collapse]

/-- Text that ends with a visible character has none but leading blanks to lose. -/
theorem trimmed_skipBlanks (text : Text)
    (ends : ∀ character ∈ text.getLast?, isBlank character = false) :
    Trimmed (skipBlanks text) := by
  obtain ⟨blanks, equal, _⟩ := exists_blanks text
  constructor
  · have starts := startsBlank_skipBlanks text
    intro character member
    rwa [startsBlank, Option.mem_def.mp member] at starts
  · intro character member
    refine ends character ?_
    rw [equal, List.getLast?_append, Option.mem_def.mp member]
    rfl

theorem skipBlanks_ne_nil (text : Text) (nonempty : text ≠ [])
    (ends : ∀ character ∈ text.getLast?, isBlank character = false) : skipBlanks text ≠ [] := by
  intro empty
  obtain ⟨blanks, equal, blank⟩ := exists_blanks text
  rw [empty, List.append_nil] at equal
  have last := List.getLast_mem nonempty
  have visible := ends (text.getLast nonempty) (List.getLast?_eq_some_getLast nonempty)
  rw [blank _ (equal ▸ last)] at visible
  cases visible

/-- A text without blanks at its ends is collapsed by squeezing it. -/
theorem collapse_of_trimmed (text : Text) (trimmed : Trimmed text) :
    collapse text = squeeze text := by
  -- The induction is on the length: leading blanks are taken off at once.
  induction length : text.length using Nat.strongRecOn generalizing text with
  | ind bound inductionHypothesis =>
    subst length
    cases text with
    | nil => rfl
    | cons character rest =>
      have visible := trimmed.starts character rfl
      rw [squeeze_cons_visible character rest visible]
      cases rest with
      | nil => rw [collapse, words_cons_of_ends character [] visible (Or.inl rfl)]; rfl
      | cons next rest =>
        have ends : ∀ other ∈ (next :: rest).getLast?, isBlank other = false := by
          intro other member
          exact trimmed.ends other (by rwa [List.getLast?_cons_cons])
        cases blank : isBlank next with
        | false =>
          have further := inductionHypothesis (next :: rest).length (Nat.lt_succ_self _)
            (next :: rest)
            ⟨fun other member => by cases member; exact blank, ends⟩ rfl
          obtain ⟨word, others, equal, longer⟩ := words_cons_cons character next rest blank visible
          rw [← further, collapse, longer, collapse, equal]
          cases others <;> rfl
        | true =>
          have shorter : (skipBlanks (next :: rest)).length < (character :: next :: rest).length :=
            Nat.lt_succ_of_le (List.dropWhile_sublist _).length_le
          have further := inductionHypothesis _ shorter _ (trimmed_skipBlanks _ ends) rfl
          have starts : startsBlank (next :: rest) = true := blank
          have nonempty := skipBlanks_ne_nil (next :: rest) (List.cons_ne_nil next rest) ends
          obtain ⟨first, remaining, equal⟩ := List.exists_cons_of_ne_nil nonempty
          have firstVisible := startsBlank_skipBlanks (next :: rest)
          rw [equal] at further firstVisible
          obtain ⟨word, others, someWords⟩ :=
            List.exists_cons_of_ne_nil (words_ne_nil first remaining firstVisible)
          rw [squeeze_of_startsBlank _ starts, equal, ← further, collapse,
            words_cons_of_ends character _ visible (Or.inr starts), ← words_skipBlanks, equal,
            collapse, someWords]
          rfl

theorem collapse_eq (text : Text) : collapse text = squeeze (trim text) := by
  rw [← collapse_trim, collapse_of_trimmed _ (trimmed_trim text)]

theorem trimmed_collapse (text : Text) : Trimmed (collapse text) :=
  collapse_eq text ▸ (trimmed_trim text).squeeze

theorem squeeze_collapse (text : Text) : squeeze (collapse text) = collapse text := by
  rw [collapse_eq, squeeze_squeeze]

/-! ### Parts of a text -/

theorem Trimmed.exists_cons {text : Text} (trimmed : Trimmed text) (nonempty : text ≠ []) :
    ∃ first rest, text = first :: rest ∧ isBlank first = false := by
  obtain ⟨first, rest, rfl⟩ := List.exists_cons_of_ne_nil nonempty
  exact ⟨first, rest, rfl, trimmed.starts first rfl⟩

theorem Trimmed.exists_concat {text : Text} (trimmed : Trimmed text) (nonempty : text ≠ []) :
    ∃ init last, text = init ++ [last] ∧ isBlank last = false := by
  refine ⟨_, _, (List.dropLast_concat_getLast nonempty).symm, trimmed.ends _ ?_⟩
  exact List.getLast?_eq_some_getLast nonempty

section Part

variable (before text after : Text) (trimmed : Trimmed text) (nonempty : text ≠ [])

include trimmed nonempty

/-- A part that neither starts nor ends with a blank is squeezed on its own. -/
theorem squeeze_append_trimmed :
    squeeze (before ++ text ++ after) = squeeze before ++ squeeze text ++ squeeze after := by
  obtain ⟨init, last, equal, lastVisible⟩ := trimmed.exists_concat nonempty
  have behind : squeeze (text ++ after) = squeeze text ++ squeeze after := by
    rw [equal, List.append_assoc, List.singleton_append,
      squeeze_append_cons init after last lastVisible, squeeze_append_cons init [] last lastVisible,
      List.append_assoc]
    rfl
  obtain ⟨first, rest, startsWith, firstVisible⟩ := trimmed.exists_cons nonempty
  rw [startsWith, List.cons_append] at behind
  rw [startsWith, List.append_assoc, List.cons_append,
    squeeze_append_cons before _ first firstVisible,
    ← squeeze_cons_visible first (rest ++ after) firstVisible, behind, List.append_assoc]

/-- Trimming takes nothing away from such a part. -/
theorem trim_append_trimmed :
    trim (before ++ text ++ after) = skipBlanks before ++ text ++ dropTrailingBlanks after := by
  obtain ⟨first, rest, startsWith, firstVisible⟩ := trimmed.exists_cons nonempty
  obtain ⟨init, last, endsWith, lastVisible⟩ := trimmed.exists_concat nonempty
  have skipped : skipBlanks (before ++ text ++ after) = skipBlanks before ++ text ++ after := by
    rw [startsWith, List.append_assoc, List.cons_append,
      skipBlanks_append_cons before _ first firstVisible, List.append_assoc, List.cons_append]
  have cut : skipBlanks before ++ text ++ after = (skipBlanks before ++ init) ++ last :: after := by
    rw [endsWith]
    simp only [List.append_assoc, List.singleton_append]
  rw [trim, skipped, cut, dropTrailingBlanks_append_cons _ after last lastVisible, endsWith]
  simp only [List.append_assoc, List.singleton_append]

/-- Collapsing a text collapses such a part where it stands. -/
theorem collapse_append_trimmed :
    collapse (before ++ text ++ after) = squeeze (skipBlanks before) ++ collapse text ++
      squeeze (dropTrailingBlanks after) := by
  rw [collapse_eq, trim_append_trimmed before text after trimmed nonempty,
    squeeze_append_trimmed _ text _ trimmed nonempty, collapse_of_trimmed text trimmed]

end Part

/-- Texts with a space between them, none of them empty and none with a blank at an end, are
squeezed one by one. -/
theorem squeeze_join (texts : List Text) (trimmed : ∀ text ∈ texts, Trimmed text ∧ text ≠ []) :
    squeeze (join " " texts) = join " " (texts.map squeeze) := by
  induction texts with
  | nil => rfl
  | cons text texts inductionHypothesis =>
    cases texts with
    | nil => rfl
    | cons second texts =>
      have further := inductionHypothesis fun other member =>
        trimmed other (List.mem_cons_of_mem text member)
      obtain ⟨textTrimmed, textNonempty⟩ := trimmed text List.mem_cons_self
      obtain ⟨secondTrimmed, secondNonempty⟩ :=
        trimmed second (List.mem_cons_of_mem text List.mem_cons_self)
      obtain ⟨first, rest, startsWith, visible⟩ := secondTrimmed.exists_cons secondNonempty
      have starts : startsBlank (join " " (second :: texts)) = false := by
        rw [startsWith]
        cases texts <;> exact visible
      have spaced := squeeze_append_trimmed [] text (' ' :: join " " (second :: texts)) textTrimmed
        textNonempty
      rw [squeeze_cons_blank ' ' _ rfl starts, further, List.nil_append] at spaced
      rw [join_cons_cons, List.append_assoc]
      refine spaced.trans ?_
      show squeeze text ++ ([' '] ++ join " " ((second :: texts).map squeeze)) = _
      rw [← List.append_assoc]
      rfl

/-! ### Single spaces -/

/-- A text with at most a single space in a row and no other blank. -/
def SingleSpaced (text : Text) : Prop :=
  ∀ before character after, text = before ++ character :: after → isBlank character = true →
    character = ' ' ∧ startsBlank after = false

theorem singleSpaced_cons (character : Char) (rest : Text) :
    SingleSpaced (character :: rest) ↔
      (isBlank character = true → character = ' ' ∧ startsBlank rest = false) ∧
        SingleSpaced rest := by
  constructor
  · intro single
    refine ⟨single [] character rest rfl, fun before other after equal => ?_⟩
    exact single (character :: before) other after (congrArg (character :: ·) equal)
  · rintro ⟨first, further⟩ before other after equal
    cases before with
    | nil =>
      cases equal
      exact first
    | cons second before =>
      injection equal with _ equal
      exact further before other after equal

theorem SingleSpaced.of_isInfix {part text : Text} (single : SingleSpaced text)
    (stands : part <:+: text) : SingleSpaced part := by
  obtain ⟨lead, tail, rfl⟩ := stands
  intro before character after equal blank
  obtain ⟨space, ends⟩ := single (lead ++ before) character (after ++ tail)
    (by rw [equal]; simp only [List.append_assoc, List.cons_append]) blank
  refine ⟨space, ?_⟩
  cases after with
  | nil => rfl
  | cons next after => exact ends

theorem singleSpaced_squeeze (text : Text) : SingleSpaced (squeeze text) := by
  induction text with
  | nil =>
    intro before character after impossible
    cases before <;> cases impossible
  | cons character rest inductionHypothesis =>
    cases blank : isBlank character with
    | false =>
      rw [squeeze_cons_visible character rest blank, singleSpaced_cons]
      exact ⟨fun isBlank => absurd isBlank (Bool.eq_false_iff.mp blank), inductionHypothesis⟩
    | true =>
      cases continues : startsBlank rest with
      | true =>
        rw [squeeze_cons_blanks character rest blank continues]
        exact inductionHypothesis
      | false =>
        rw [squeeze_cons_blank character rest blank continues, singleSpaced_cons]
        exact ⟨fun _ => ⟨rfl, (startsBlank_squeeze rest).trans continues⟩, inductionHypothesis⟩

/-- The texts that squeezing leaves as they are. -/
theorem squeeze_eq_self_iff (text : Text) : squeeze text = text ↔ SingleSpaced text := by
  refine ⟨fun same => same ▸ singleSpaced_squeeze text, fun single => ?_⟩
  induction text with
  | nil => rfl
  | cons character rest inductionHypothesis =>
    obtain ⟨first, further⟩ := (singleSpaced_cons character rest).mp single
    cases blank : isBlank character with
    | false => rw [squeeze_cons_visible character rest blank, inductionHypothesis further]
    | true =>
      obtain ⟨rfl, ends⟩ := first blank
      rw [squeeze_cons_blank ' ' rest blank ends, inductionHypothesis further]

end DumpRestore.Text
