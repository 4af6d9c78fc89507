/-
This file describes what the reader of a table body does with each character, whatever its place
and depth: it takes the character into the fragment in progress, begins the first fragment behind
an opening parenthesis, cuts at a comma, or ends the last fragment at a closing parenthesis. From
these steps alone it follows that every fragment stands in the source where it says, and that each
of them ends before the next one starts.
-/

import DumpRestore.Proofs.Table.Walk
import DumpRestore.Proofs.Text.Basic

namespace DumpRestore.TableBody

/-! ### Marks in front of the body -/

section Marks

variable (position : Nat) (depth : Int) (rest : Text)

theorem fragmentsFrom_openBefore (inner : depth ≠ 0) :
    fragmentsFrom .plain position depth none ('(' :: rest) =
      fragmentsFrom .plain (position + 1) (depth + 1) none rest := by
  rw [fragmentsFrom.eq_def]
  simp only [Option.map_none, if_neg inner]
  rfl

theorem fragmentsFrom_closeBefore :
    fragmentsFrom .plain position depth none (')' :: rest) =
      fragmentsFrom .plain (position + 1) (depth - 1) none rest := by
  rw [fragmentsFrom.eq_def]
  rfl

theorem fragmentsFrom_commaBefore :
    fragmentsFrom .plain position depth none (',' :: rest) =
      fragmentsFrom .plain (position + 1) depth none rest := by
  rw [fragmentsFrom.eq_def]
  rfl

end Marks

/-! ### Runs of the reader -/

/-- A run of the reader from a position on, with a fragment in progress, over the rest of the
source, and the fragments it gives. -/
inductive Cuts : Nat → Option Progress → Text → List Fragment → Prop
  | finish (position : Nat) (progress : Option Progress) :
    Cuts position progress [] (unfinished progress)
  | take (position : Nat) (progress : Option Progress) (character : Char) (rest : Text)
    (fragments : List Fragment)
    (further : Cuts (position + 1) (progress.map (Progress.push character)) rest fragments) :
    Cuts position progress (character :: rest) fragments
  | begin (position : Nat) (rest : Text) (fragments : List Fragment)
    (further : Cuts (position + 1) (some { offset := position + 1, reversed := [] }) rest
      fragments) :
    Cuts position none ('(' :: rest) fragments
  | cut (position : Nat) (progress : Progress) (rest : Text) (fragments : List Fragment)
    (further : Cuts (position + 1) (some { offset := position + 1, reversed := [] }) rest
      fragments) :
    Cuts position (some progress) (',' :: rest) (progress.fragment :: fragments)
  | close (position : Nat) (progress : Progress) (rest : Text) :
    Cuts position (some progress) (')' :: rest) [progress.fragment]

/-- Characters that are taken may stand in front of a run. -/
theorem Cuts.behind {position : Nat} {progress : Option Progress} {rest : Text}
    {fragments : List Fragment} (characters : Text)
    (further : Cuts (position + characters.length) (taken characters progress) rest fragments) :
    Cuts position progress (characters ++ rest) fragments := by
  induction characters generalizing position progress with
  | nil =>
    cases progress <;> exact further
  | cons character characters inductionHypothesis =>
    refine .take _ _ _ _ _ (inductionHypothesis ?_)
    rwa [taken_cons, List.length_cons, Nat.add_comm characters.length, ← Nat.add_assoc] at further

/-- The reader takes such a run, whatever its place and depth. -/
theorem cuts_fragmentsFrom (place : Place) (position : Nat) (depth : Int)
    (progress : Option Progress) (text : Text) :
    Cuts position progress text (fragmentsFrom place position depth progress text) := by
  induction walk place text generalizing position depth progress with
  | finish place =>
    rw [fragmentsFrom_nil]
    exact .finish _ _
  | cutOff quote character escaped =>
    rw [fragmentsFrom_cutOff _ _ _ _ _ escaped]
    exact .behind [character] (.finish _ _)
  | step place next characters rest step _ inductionHypothesis =>
    rw [step.fragmentsFrom]
    exact .behind characters (inductionHypothesis _ _ _)
  | opening rest _ inductionHypothesis =>
    cases progress with
    | some current =>
      rw [fragmentsFrom_open]
      exact .behind ['('] (inductionHypothesis _ _ _)
    | none =>
      by_cases outermost : depth = 0
      · subst outermost
        rw [fragmentsFrom_begin]
        exact .begin _ _ _ (inductionHypothesis _ _ _)
      · rw [fragmentsFrom_openBefore _ _ _ outermost]
        exact .behind ['('] (inductionHypothesis _ _ _)
  | closing rest _ inductionHypothesis =>
    cases progress with
    | none =>
      rw [fragmentsFrom_closeBefore]
      exact .behind [')'] (inductionHypothesis _ _ _)
    | some current =>
      by_cases outermost : depth = 1
      · subst outermost
        rw [fragmentsFrom_end]
        exact .close _ _ _
      · rw [fragmentsFrom_close _ _ _ _ outermost]
        exact .behind [')'] (inductionHypothesis _ _ _)
  | comma rest _ inductionHypothesis =>
    cases progress with
    | none =>
      rw [fragmentsFrom_commaBefore]
      exact .behind [','] (inductionHypothesis _ _ _)
    | some current =>
      by_cases outermost : depth = 1
      · subst outermost
        rw [fragmentsFrom_cut]
        exact .cut _ _ _ _ (inductionHypothesis _ _ _)
      · rw [fragmentsFrom_comma _ _ _ _ outermost]
        exact .behind [','] (inductionHypothesis _ _ _)

/-! ### Fragments in the source -/

/-- A fragment in progress holds the end of what has been read, from its position on. -/
def Progress.Holds (read : Text) (progress : Progress) : Prop :=
  ∃ before, read = before ++ progress.reversed.reverse ∧ before.length = progress.offset

theorem Progress.Holds.push {read : Text} {progress : Progress} (holds : progress.Holds read)
    (character : Char) : (progress.push character).Holds (read ++ [character]) := by
  obtain ⟨before, rfl, length⟩ := holds
  refine ⟨before, ?_, length⟩
  rw [Progress.push, List.reverse_cons, List.append_assoc]

/-- A fragment that has just begun holds nothing of what has been read. -/
theorem Progress.holds_new (read : Text) (character : Char) :
    Progress.Holds (read ++ [character]) { offset := read.length + 1, reversed := [] } :=
  ⟨read ++ [character], (List.append_nil _).symm, by rw [List.length_append]; rfl⟩

theorem Progress.Holds.standsAt {read : Text} {progress : Progress} (holds : progress.Holds read)
    (rest : Text) :
    Text.StandsAt (read ++ rest) progress.fragment.offset progress.fragment.text := by
  obtain ⟨before, rfl, length⟩ := holds
  exact ⟨before, rest, rfl, length⟩

/-- Every fragment of a run stands in the source where it says. -/
theorem Cuts.standsAt {position : Nat} {progress : Option Progress} {text : Text}
    {fragments : List Fragment} (cuts : Cuts position progress text fragments) (read : Text)
    (length : read.length = position) (holds : ∀ current ∈ progress, current.Holds read)
    (fragment : Fragment) (member : fragment ∈ fragments) :
    Text.StandsAt (read ++ text) fragment.offset fragment.text := by
  induction cuts generalizing read with
  | finish position progress =>
    cases progress with
    | none => cases member
    | some current =>
      rw [unfinished] at member
      split at member
      · cases member
      · rw [List.mem_singleton.mp member]
        exact (holds current rfl).standsAt []
  | take position progress character rest fragments further inductionHypothesis =>
    have next := inductionHypothesis (read ++ [character]) (by rw [List.length_append, length]; rfl)
      (fun current inProgress => ?_) member
    · rwa [List.append_assoc] at next
    · obtain ⟨before, inBefore, rfl⟩ := Option.map_eq_some_iff.mp inProgress
      exact (holds before inBefore).push character
  | begin position rest fragments further inductionHypothesis =>
    subst length
    have next := inductionHypothesis (read ++ ['(']) (by rw [List.length_append]; rfl)
      (fun current inProgress => ?_) member
    · rwa [List.append_assoc] at next
    · rw [← Option.mem_some.mp inProgress]
      exact Progress.holds_new read '('
  | cut position current rest fragments further inductionHypothesis =>
    subst length
    rcases List.mem_cons.mp member with rfl | inRest
    · exact (holds current rfl).standsAt _
    · have next := inductionHypothesis (read ++ [',']) (by rw [List.length_append]; rfl)
        (fun new inProgress => ?_) inRest
      · rwa [List.append_assoc] at next
      · rw [← Option.mem_some.mp inProgress]
        exact Progress.holds_new read ','
  | close position current rest =>
    rw [List.mem_singleton.mp member]
    exact (holds current rfl).standsAt _

/-- Every fragment of a table body stands in the source where it says. -/
theorem standsAt_of_mem_split (source : Text) (fragment : Fragment)
    (member : fragment ∈ split source) :
    Text.StandsAt source fragment.offset fragment.text :=
  (cuts_fragmentsFrom .plain 0 0 none source).standsAt [] rfl
    (fun _ impossible => by cases impossible) fragment member

/-! ### The order of the fragments -/

/-- A fragment ends before another one starts, with the comma between them. -/
def Precedes (first second : Fragment) : Prop :=
  first.offset + first.text.length < second.offset

/-- No fragment of a run starts before the run does, nor before the fragment in progress. -/
theorem Cuts.le_offset {position : Nat} {progress : Option Progress} {text : Text}
    {fragments : List Fragment} (cuts : Cuts position progress text fragments) (bound : Nat)
    (reached : bound ≤ position) (begun : ∀ current ∈ progress, bound ≤ current.offset)
    (fragment : Fragment) (member : fragment ∈ fragments) : bound ≤ fragment.offset := by
  have new (position : Nat) (reached : bound ≤ position) :
      ∀ current ∈ some (Progress.mk (position + 1) []), bound ≤ current.offset :=
    fun current inProgress => Option.mem_some.mp inProgress ▸ Nat.le_succ_of_le reached
  induction cuts with
  | finish position progress =>
    cases progress with
    | none => cases member
    | some current =>
      rw [unfinished] at member
      split at member
      · cases member
      · rw [List.mem_singleton.mp member]
        exact begun current rfl
  | take position progress character rest fragments further inductionHypothesis =>
    refine inductionHypothesis (Nat.le_succ_of_le reached) (fun current inProgress => ?_) member
    obtain ⟨before, inBefore, rfl⟩ := Option.map_eq_some_iff.mp inProgress
    exact begun before inBefore
  | begin position rest fragments further inductionHypothesis =>
    exact inductionHypothesis (Nat.le_succ_of_le reached) (new position reached) member
  | cut position current rest fragments further inductionHypothesis =>
    rcases List.mem_cons.mp member with rfl | inRest
    · exact begun current rfl
    · exact inductionHypothesis (Nat.le_succ_of_le reached) (new position reached) inRest
  | close position current rest =>
    rw [List.mem_singleton.mp member]
    exact begun current rfl

/-- The fragments of a run come in order where the fragment in progress reaches up to the position
of the run. -/
theorem Cuts.pairwise {position : Nat} {progress : Option Progress} {text : Text}
    {fragments : List Fragment} (cuts : Cuts position progress text fragments)
    (reaches : ∀ current ∈ progress, current.offset + current.reversed.length = position) :
    fragments.Pairwise Precedes := by
  have new (position : Nat) : ∀ current ∈ some (Progress.mk (position + 1) []),
      current.offset + current.reversed.length = position + 1 :=
    fun current inProgress => Option.mem_some.mp inProgress ▸ rfl
  induction cuts with
  | finish position progress =>
    cases progress with
    | none => exact .nil
    | some current =>
      rw [unfinished]
      split
      · exact .nil
      · exact List.pairwise_singleton _ _
  | take position progress character rest fragments further inductionHypothesis =>
    refine inductionHypothesis fun current inProgress => ?_
    obtain ⟨before, inBefore, rfl⟩ := Option.map_eq_some_iff.mp inProgress
    exact congrArg (· + 1) (reaches before inBefore)
  | begin position rest fragments further inductionHypothesis =>
    exact inductionHypothesis (new position)
  | cut position current rest fragments further inductionHypothesis =>
    refine List.pairwise_cons.mpr ⟨fun fragment member => ?_, inductionHypothesis (new position)⟩
    have behind := further.le_offset (position + 1) (Nat.le_refl _)
      (fun new inProgress => Option.mem_some.mp inProgress ▸ Nat.le_refl _) fragment member
    have ends := reaches current rfl
    show current.offset + current.reversed.reverse.length < fragment.offset
    rw [List.length_reverse, ends]
    exact behind
  | close position current rest => exact List.pairwise_singleton _ _

/-- The fragments of a table body come in order. -/
theorem pairwise_split (source : Text) : (split source).Pairwise Precedes :=
  (cuts_fragmentsFrom .plain 0 0 none source).pairwise fun _ impossible => by cases impossible

end DumpRestore.TableBody
