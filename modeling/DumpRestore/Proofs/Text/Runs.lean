/-
This file describes runs of a text: words and gaps in which no word stands next to another. The
runs of a text are such, and the words of a text that such runs make up are the words among the
runs. The runs may therefore be rewritten one by one and the words be read off afterwards.
-/

import DumpRestore.Proofs.Text.Words

namespace DumpRestore.Text.Run

/-! ### Runs in turn -/

/-- Whether runs start with a word. -/
def startsWord : List Run → Bool
  | .word _ :: _ => true
  | _ => false

/-- Words and gaps, none of them empty, each of its own characters, and no word next to another. -/
inductive Separated : List Run → Prop
  | nil : Separated []
  | word (text : Text) (runs : List Run) (nonempty : text ≠ [])
      (inWord : ∀ character ∈ text, isWordChar character = true)
      (apart : startsWord runs = false) (further : Separated runs) :
      Separated (.word text :: runs)
  | gap (text : Text) (runs : List Run) (nonempty : text ≠ [])
      (between : ∀ character ∈ text, isWordChar character = false) (further : Separated runs) :
      Separated (.gap text :: runs)

theorem separated_prepend (character : Char) (runs : List Run) (separated : Separated runs) :
    Separated (prepend character runs) := by
  unfold prepend
  split
  · rename_i inWord
    split
    · cases separated with
      | word text others nonempty textWord apart further =>
        exact .word _ _ (List.cons_ne_nil _ _) (List.forall_mem_cons.mpr ⟨inWord, textWord⟩) apart
          further
    · rename_i noWord
      refine .word _ _ (List.cons_ne_nil _ _) (List.forall_mem_singleton.mpr inWord) ?_ separated
      cases separated with
      | nil => rfl
      | word text others => exact absurd rfl (noWord text others)
      | gap => rfl
  · rename_i notInWord
    have between : isWordChar character = false := Bool.eq_false_iff.mpr notInWord
    split
    · cases separated with
      | gap text others nonempty textGap further =>
        exact .gap _ _ (List.cons_ne_nil _ _) (List.forall_mem_cons.mpr ⟨between, textGap⟩) further
    · exact .gap _ _ (List.cons_ne_nil _ _) (List.forall_mem_singleton.mpr between) separated

theorem separated_ofText (text : Text) : Separated (ofText text) := by
  induction text with
  | nil => exact .nil
  | cons character text inductionHypothesis =>
    rw [ofText_cons]
    exact separated_prepend character _ inductionHypothesis

/-! ### The text of runs -/

theorem toText_cons (run : Run) (runs : List Run) :
    toText (run :: runs) = run.text ++ toText runs :=
  List.flatMap_cons

theorem toText_prepend (character : Char) (runs : List Run) :
    toText (prepend character runs) = character :: toText runs := by
  unfold prepend
  split
  · split <;> rfl
  · split <;> rfl

theorem toText_ofText (text : Text) : toText (ofText text) = text := by
  induction text with
  | nil => rfl
  | cons character text inductionHypothesis =>
    rw [ofText_cons, toText_prepend, inductionHypothesis]

theorem endsWord_toText (runs : List Run) (separated : Separated runs)
    (apart : startsWord runs = false) : EndsWord (toText runs) := by
  cases separated with
  | nil => exact endsWord_nil
  | word => cases apart
  | gap text runs nonempty between further =>
    obtain ⟨first, rest, rfl⟩ := List.exists_cons_of_ne_nil nonempty
    exact endsWord_cons first _ (between first List.mem_cons_self)

/-- Whether a run is a form of a keyword. -/
def isKeyword (keyword : Text) : Run → Bool
  | .word text => Text.isKeyword keyword text
  | .gap _ => false

/-- The words of the text that runs make up are the words among the runs. -/
theorem hasWord_toText (keyword : Text) (runs : List Run) (separated : Separated runs) :
    hasWord keyword (toText runs) = runs.any (isKeyword keyword) := by
  induction separated with
  | nil => rfl
  | word text runs nonempty inWord apart further inductionHypothesis =>
    rw [toText_cons, List.any_cons, ← inductionHypothesis]
    exact hasWord_append keyword text _ nonempty inWord (endsWord_toText runs further apart)
  | gap text runs nonempty between further inductionHypothesis =>
    rw [toText_cons, List.any_cons, isKeyword, Bool.false_or, ← inductionHypothesis]
    clear nonempty
    induction text with
    | nil => rfl
    | cons character text further =>
      exact (hasWord_cons_of_gap keyword character _ (between character List.mem_cons_self)).trans
        (further fun other member => between other (List.mem_cons_of_mem character member))

end DumpRestore.Text.Run
