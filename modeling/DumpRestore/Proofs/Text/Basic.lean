/-
This file gives the small facts about joined and cut texts and about the place of a text in a
source. A text stands in a source at a position where the source goes on with it from there.
-/

import DumpRestore.Text.Basic

namespace DumpRestore.Text

/-! ### Joined texts -/

theorem join_cons_cons (separator first second : Text) (texts : List Text) :
    join separator (first :: second :: texts) =
      first ++ separator ++ join separator (second :: texts) := rfl

/-- A character of joined texts is one of a text or of the separator. -/
theorem mem_join (separator : Text) (texts : List Text) (character : Char)
    (member : character ∈ join separator texts) :
    (∃ text ∈ texts, character ∈ text) ∨ character ∈ separator := by
  induction texts with
  | nil => cases member
  | cons text texts inductionHypothesis =>
    cases texts with
    | nil => exact Or.inl ⟨text, List.mem_cons_self, member⟩
    | cons second texts =>
      rw [join_cons_cons, List.append_assoc] at member
      rcases List.mem_append.mp member with inFirst | inRest
      · exact Or.inl ⟨text, List.mem_cons_self, inFirst⟩
      · rcases List.mem_append.mp inRest with inSeparator | inOthers
        · exact Or.inr inSeparator
        · refine (inductionHypothesis inOthers).imp_left ?_
          rintro ⟨other, otherMember, inOther⟩
          exact ⟨other, List.mem_cons_of_mem text otherMember, inOther⟩

/-- Joined texts are empty only where there is no text or where the first one is empty. -/
theorem join_ne_nil (separator first : Text) (texts : List Text) (nonempty : first ≠ []) :
    join separator (first :: texts) ≠ [] := by
  cases texts with
  | nil => exact nonempty
  | cons second texts =>
    rw [join_cons_cons, List.append_assoc]
    exact fun empty => nonempty (List.append_eq_nil_iff.mp empty).1

/-! ### Cutting at one character -/

theorem splitOn_ne_nil (separator : Char) (text : Text) : splitOn separator text ≠ [] := by
  cases text with
  | nil => exact List.cons_ne_nil _ _
  | cons character text =>
    rw [splitOn, splitWhere]
    split
    · exact List.cons_ne_nil _ _
    · split <;> exact List.cons_ne_nil _ _

theorem splitOn_cons_separator (separator : Char) (rest : Text) :
    splitOn separator (separator :: rest) = [] :: splitOn separator rest := by
  rw [splitOn, splitWhere, decide_eq_true rfl, if_pos rfl, splitOn]

theorem splitOn_cons_of_ne (separator character : Char) (rest piece : Text) (pieces : List Text)
    (other : character ≠ separator) (equal : splitOn separator rest = piece :: pieces) :
    splitOn separator (character :: rest) = (character :: piece) :: pieces := by
  rw [splitOn] at equal ⊢
  rw [splitWhere, decide_eq_false other, if_neg Bool.false_ne_true, equal]

theorem splitOn_of_not_mem (separator : Char) (text : Text) (absent : separator ∉ text) :
    splitOn separator text = [text] := by
  induction text with
  | nil => rfl
  | cons character text inductionHypothesis =>
    have other : character ≠ separator := fun same => absent (same ▸ List.mem_cons_self)
    have further := inductionHypothesis fun member => absent (List.mem_cons_of_mem character member)
    exact splitOn_cons_of_ne separator character text text [] other further

/-- A text is cut piece by piece wherever it is cut at the separator. -/
theorem splitOn_append_cons (separator : Char) (text rest : Text) :
    splitOn separator (text ++ separator :: rest) =
      splitOn separator text ++ splitOn separator rest := by
  induction text with
  | nil => exact splitOn_cons_separator separator rest
  | cons character text inductionHypothesis =>
    rw [List.cons_append]
    by_cases same : character = separator
    · subst same
      rw [splitOn_cons_separator, splitOn_cons_separator, inductionHypothesis, List.cons_append]
    · obtain ⟨piece, pieces, equal⟩ := List.exists_cons_of_ne_nil (splitOn_ne_nil separator text)
      rw [equal, List.cons_append] at inductionHypothesis
      rw [splitOn_cons_of_ne separator character _ piece _ same inductionHypothesis,
        splitOn_cons_of_ne separator character text piece pieces same equal, List.cons_append]

theorem splitOn_append (separator : Char) (text rest : Text) (absent : separator ∉ text) :
    splitOn separator (text ++ separator :: rest) = text :: splitOn separator rest := by
  rw [splitOn_append_cons, splitOn_of_not_mem separator text absent, List.singleton_append]

/-- Joined texts are cut where they were joined, and where they have the separator themselves. -/
theorem splitOn_join (separator : Char) (first : Text) (texts : List Text) :
    splitOn separator (join [separator] (first :: texts)) =
      (first :: texts).flatMap (splitOn separator) := by
  induction texts generalizing first with
  | nil => exact (List.append_nil _).symm
  | cons second texts inductionHypothesis =>
    rw [join_cons_cons, List.append_assoc, List.singleton_append, splitOn_append_cons,
      inductionHypothesis]
    rfl

theorem not_mem_of_mem_splitOn (separator : Char) (text piece : Text)
    (member : piece ∈ splitOn separator text) : separator ∉ piece := by
  induction text generalizing piece with
  | nil =>
    rw [List.mem_singleton.mp member]
    exact List.not_mem_nil
  | cons character text inductionHypothesis =>
    by_cases same : character = separator
    · subst same
      rw [splitOn_cons_separator] at member
      rcases List.mem_cons.mp member with rfl | further
      · exact List.not_mem_nil
      · exact inductionHypothesis piece further
    · obtain ⟨first, pieces, equal⟩ := List.exists_cons_of_ne_nil (splitOn_ne_nil separator text)
      rw [equal] at inductionHypothesis
      rw [splitOn_cons_of_ne separator character text first pieces same equal] at member
      rcases List.mem_cons.mp member with rfl | further
      · intro inPiece
        rcases List.mem_cons.mp inPiece with isFirst | inFirst
        · exact same isFirst.symm
        · exact inductionHypothesis first List.mem_cons_self inFirst
      · exact inductionHypothesis piece (List.mem_cons_of_mem _ further)

/-! ### Positions -/

/-- A text stands in a source at a position: the source is some text of that length, the text
itself, and a rest. -/
def StandsAt (source : Text) (position : Nat) (text : Text) : Prop :=
  ∃ before after, source = before ++ text ++ after ∧ before.length = position

/-- A part of a text that stands in a source stands there itself. -/
theorem StandsAt.part {source text : Text} {position : Nat}
    (standing : StandsAt source position text) (before part after : Text)
    (parts : text = before ++ part ++ after) : StandsAt source (position + before.length) part := by
  obtain ⟨lead, rest, rfl, rfl⟩ := standing
  refine ⟨lead ++ before, after ++ rest, ?_, List.length_append⟩
  rw [parts]
  simp only [List.append_assoc]

end DumpRestore.Text
