/-
This file lists the words of a text, its maximal runs of word characters. Words and gaps of a text
take turns. Where nothing but blanks stands between them, the words are those between the blanks, so
that squeezing the text keeps them, and so are the words among runs that make up such a text.
-/

import DumpRestore.Proofs.Text.Runs
import DumpRestore.Proofs.Text.Spacing

namespace DumpRestore.Text

/-! ### Runs in turn -/

namespace Run

/-- The words among runs. -/
def words (runs : List Run) : List Text :=
  runs.filterMap fun
    | .word text => some text
    | .gap _ => none

theorem words_cons_word (text : Text) (runs : List Run) :
    words (.word text :: runs) = text :: words runs := rfl

theorem words_cons_gap (text : Text) (runs : List Run) :
    words (.gap text :: runs) = words runs := rfl

/-- Whether a run is a word. -/
def isWord : Run → Bool
  | .word _ => true
  | .gap _ => false

/-- Runs among which no two neighbours are both words or both gaps. -/
def TakeTurns (runs : List Run) : Prop :=
  runs.IsChain fun first second => first.isWord ≠ second.isWord

theorem takeTurns_prepend (character : Char) (runs : List Run) (turns : TakeTurns runs) :
    TakeTurns (prepend character runs) := by
  unfold prepend
  split
  · cases runs with
    | nil => exact .singleton _
    | cons first others =>
      cases first with
      | word text => exact List.isChain_cons.mpr (List.isChain_cons.mp turns)
      | gap text => exact List.isChain_cons_cons.mpr ⟨Bool.noConfusion, turns⟩
  · cases runs with
    | nil => exact .singleton _
    | cons first others =>
      cases first with
      | word text => exact List.isChain_cons_cons.mpr ⟨Bool.noConfusion, turns⟩
      | gap text => exact List.isChain_cons.mpr (List.isChain_cons.mp turns)

/-- The words and gaps of a text take turns. -/
theorem takeTurns_ofText (text : Text) : TakeTurns (ofText text) := by
  induction text with
  | nil => exact .nil
  | cons character text inductionHypothesis =>
    rw [ofText_cons]
    exact takeTurns_prepend character _ inductionHypothesis

/-- No word stands behind a word that is not followed by a gap and a word. -/
theorem TakeTurns.words_eq_nil {text : Text} {runs : List Run}
    (turns : TakeTurns (.word text :: runs))
    (last : ∀ between other further, runs ≠ .gap between :: .word other :: further) :
    words runs = [] := by
  cases runs with
  | nil => rfl
  | cons second runs =>
    obtain ⟨turn, behind⟩ := List.isChain_cons_cons.mp turns
    cases second with
    | word other => exact absurd rfl turn
    | gap between =>
      cases runs with
      | nil => rfl
      | cons third runs =>
        cases third with
        | word other => exact absurd rfl (last between other runs)
        | gap other => exact absurd rfl (List.isChain_cons_cons.mp behind).1

/-- Words and gaps that take turns, with nothing but blanks in the gaps. -/
structure BlankTurns (runs : List Run) : Prop where
  turns : TakeTurns runs
  blank : ∀ gap, .gap gap ∈ runs → gap.all isBlank = true

theorem BlankTurns.tail {run : Run} {runs : List Run} (taken : BlankTurns (run :: runs)) :
    BlankTurns runs :=
  ⟨taken.turns.tail, fun gap member => taken.blank gap (List.mem_cons_of_mem run member)⟩

theorem Separated.between {runs : List Run} (separated : Separated runs) (text : Text)
    (member : .gap text ∈ runs) : ∀ character ∈ text, isWordChar character = false := by
  induction separated with
  | nil => cases member
  | word other runs _ _ _ _ inductionHypothesis =>
    rcases List.mem_cons.mp member with same | behind
    · cases same
    · exact inductionHypothesis behind
  | gap other runs _ between _ inductionHypothesis =>
    rcases List.mem_cons.mp member with same | behind
    · cases same
      exact between
    · exact inductionHypothesis behind

end Run

/-- The maximal runs of word characters in a text. -/
def wordRuns (text : Text) : List Text :=
  Run.words (Run.ofText text)

theorem hasWord_eq_any_wordRuns (keyword text : Text) :
    hasWord keyword text = (wordRuns text).any (isKeyword keyword) := by
  rw [hasWord, wordRuns, Run.words, List.any_filterMap]
  refine congrArg (List.any _) (funext fun run => ?_)
  cases run <;> rfl

/-- In a text of words and blanks the gaps are blank. -/
theorem OnlyWords.blankTurns {text : Text} (onlyWords : OnlyWords text) :
    Run.BlankTurns (Run.ofText text) := by
  refine ⟨Run.takeTurns_ofText text, fun gap member => List.all_eq_true.mpr ?_⟩
  intro character inGap
  have inText : character ∈ text := by
    rw [← Run.toText_ofText text]
    exact List.mem_flatMap.mpr ⟨_, member, inGap⟩
  refine (onlyWords character inText).resolve_left fun inWord => ?_
  rw [(Run.separated_ofText text).between gap member character inGap] at inWord
  cases inWord

/-- A solid text in front of a blank or at the end is a word. -/
theorem words_append_of_solid (word rest : Text) (solid : Solid word)
    (ends : rest = [] ∨ startsBlank rest = true) : words (word ++ rest) = word :: words rest := by
  rcases ends with rfl | starts
  · rw [List.append_nil, solid.words]
    rfl
  · rw [words_append_of_parted word rest (Or.inr starts), solid.words, List.singleton_append]

theorem words_blanks_append (blanks rest : Text)
    (blank : ∀ character ∈ blanks, isBlank character = true) :
    words (blanks ++ rest) = words rest := by
  induction blanks with
  | nil => rfl
  | cons character blanks inductionHypothesis =>
    rw [List.cons_append, words_cons_blank character _ (blank character List.mem_cons_self)]
    exact inductionHypothesis fun other member =>
      blank other (List.mem_cons_of_mem character member)

/-- The words among runs are those between the blanks of the text that the runs make up, where that
text holds nothing but words and blanks. -/
theorem words_toText (runs : List Run) (separated : Run.Separated runs)
    (onlyWords : OnlyWords (Run.toText runs)) : words (Run.toText runs) = Run.words runs := by
  induction separated with
  | nil => rfl
  | word text runs nonempty inWord apart further inductionHypothesis =>
    have behind : OnlyWords (Run.toText runs) := fun character member =>
      onlyWords character (List.mem_append_right text member)
    have solid : Solid text :=
      ⟨nonempty, fun character member => isBlank_of_isWordChar character (inWord character member)⟩
    have ends : Run.toText runs = [] ∨ startsBlank (Run.toText runs) = true := by
      have endsWord := Run.endsWord_toText runs further apart
      cases equal : Run.toText runs with
      | nil => exact Or.inl rfl
      | cons character rest =>
        rw [equal] at endsWord behind
        refine Or.inr ((behind character List.mem_cons_self).resolve_left fun inWord => ?_)
        rw [endsWord character rfl] at inWord
        cases inWord
    rw [Run.toText_cons, Run.words_cons_word, ← inductionHypothesis behind]
    exact words_append_of_solid text _ solid ends
  | gap text runs nonempty between further inductionHypothesis =>
    have blank : ∀ character ∈ text, isBlank character = true := fun character member => by
      refine (onlyWords character (List.mem_append_left _ member)).resolve_left fun inWord => ?_
      rw [between character member] at inWord
      cases inWord
    rw [Run.toText_cons, Run.words_cons_gap, ← inductionHypothesis fun character member =>
      onlyWords character (List.mem_append_right text member)]
    exact words_blanks_append text _ blank

theorem wordRuns_eq_words (text : Text) (onlyWords : OnlyWords text) :
    wordRuns text = words text := by
  have runs := words_toText (Run.ofText text) (Run.separated_ofText text)
    (by rwa [Run.toText_ofText])
  rw [Run.toText_ofText] at runs
  exact runs.symm

theorem wordRuns_squeeze (text : Text) (onlyWords : OnlyWords text) :
    wordRuns (squeeze text) = wordRuns text := by
  rw [wordRuns_eq_words _ onlyWords.squeeze, words_squeeze, wordRuns_eq_words text onlyWords]

end DumpRestore.Text
