/-
This file describes the headers of a dump. They come in the order in which they stand, and each
holds the rest of the dump from its position on, from which its columns are read.
-/

import DumpRestore.Dump
import DumpRestore.Proofs.Column.Positions
import DumpRestore.Proofs.Text.Words

namespace DumpRestore.Dump

/-! ### Headers in a dump -/

theorem headersFrom_nil (owed position : Nat) : headersFrom owed position [] = [] := by
  cases owed <;> rfl

theorem headersFrom_owed (owed position : Nat) (character : Char) (rest : Text) :
    headersFrom (owed + 1) position (character :: rest) = headersFrom owed (position + 1) rest :=
  rfl

theorem headersFrom_found (position : Nat) (character : Char) (rest table after : Text)
    (found : header? (character :: rest) = some (table, after)) :
    headersFrom 0 position (character :: rest) =
      { position, table, statement := character :: rest } ::
        headersFrom (rest.length - after.length) (position + 1) rest := by
  rw [headersFrom.eq_def]
  dsimp only
  rw [found]

theorem headersFrom_missing (position : Nat) (character : Char) (rest : Text)
    (missing : header? (character :: rest) = none) :
    headersFrom 0 position (character :: rest) = headersFrom 0 (position + 1) rest := by
  rw [headersFrom.eq_def]
  dsimp only
  rw [missing]

/-- Every header stands in the text with all that is behind it. -/
theorem standing_of_mem_headersFrom (owed position : Nat) (text : Text) (header : TableHeader)
    (member : header ∈ headersFrom owed position text) :
    ∃ lead, text = lead ++ header.statement ∧ header.position = position + lead.length := by
  have longer (character : Char) (rest : Text) (position : Nat)
      (further : ∃ lead, rest = lead ++ header.statement ∧
        header.position = position + 1 + lead.length) :
      ∃ lead, character :: rest = lead ++ header.statement ∧
        header.position = position + lead.length := by
    obtain ⟨lead, rfl, stands⟩ := further
    exact ⟨character :: lead, rfl, by rw [stands, List.length_cons]; omega⟩
  fun_induction headersFrom owed position text with
  | case1 => cases member
  | case2 owed position character rest inductionHypothesis =>
    exact longer _ _ _ (inductionHypothesis member)
  | case3 position character rest table after found inductionHypothesis =>
    rcases List.mem_cons.mp member with rfl | behind
    · exact ⟨[], rfl, rfl⟩
    · exact longer _ _ _ (inductionHypothesis behind)
  | case4 position character rest missing inductionHypothesis =>
    exact longer _ _ _ (inductionHypothesis member)

theorem statement_of_mem_headers (dump : Text) (header : TableHeader)
    (member : header ∈ headers dump) : header.statement = dump.drop header.position := by
  obtain ⟨lead, rfl, stands⟩ := standing_of_mem_headersFrom 0 0 dump header member
  rw [stands, Nat.zero_add, List.drop_left]

/-- A header starts with the first letter of its first keyword. -/
theorem exists_letter_of_header? (text table rest : Text)
    (found : header? text = some (table, rest)) :
    ∃ letter after, text = letter :: after ∧ Text.isWordChar letter = true := by
  obtain ⟨_, keywords, _⟩ := Option.bind_eq_some_iff.mp found
  obtain ⟨_, spaced, _⟩ := Option.bind_eq_some_iff.mp keywords
  obtain ⟨blanks, read, _⟩ := Option.bind_eq_some_iff.mp spaced
  obtain ⟨spelling, rfl, length, inWord⟩ := Text.keyword?_eq_some "create" text blanks rfl read
  cases spelling with
  | nil => cases length
  | cons letter letters => exact ⟨letter, letters ++ blanks, rfl, inWord _ List.mem_cons_self⟩

theorem exists_letter_of_mem_headersFrom (owed position : Nat) (text : Text) (header : TableHeader)
    (member : header ∈ headersFrom owed position text) :
    ∃ letter after, header.statement = letter :: after ∧ Text.isWordChar letter = true := by
  fun_induction headersFrom owed position text with
  | case1 => cases member
  | case2 owed position character rest inductionHypothesis => exact inductionHypothesis member
  | case3 position character rest table after found inductionHypothesis =>
    rcases List.mem_cons.mp member with rfl | behind
    · exact exists_letter_of_header? _ table after found
    · exact inductionHypothesis behind
  | case4 position character rest missing inductionHypothesis => exact inductionHypothesis member

/-- The headers come in the order of their positions. -/
theorem pairwise_headersFrom (owed position : Nat) (text : Text) :
    (headersFrom owed position text).Pairwise fun first second =>
      first.position < second.position := by
  fun_induction headersFrom owed position text with
  | case1 => exact .nil
  | case2 owed position character rest inductionHypothesis => exact inductionHypothesis
  | case3 position character rest table after found inductionHypothesis =>
    refine List.pairwise_cons.mpr ⟨fun header member => ?_, inductionHypothesis⟩
    obtain ⟨lead, _, stands⟩ := standing_of_mem_headersFrom _ _ _ header member
    show position < header.position
    omega
  | case4 position character rest missing inductionHypothesis => exact inductionHypothesis

/-- Every column of a dump has been read from a fragment. -/
theorem parsed_of_mem_columns (dump : Text) (row : Text × Column) (member : row ∈ columns dump) :
    ∃ offset fragment, Column.parse? offset fragment = some row.2 := by
  obtain ⟨header, _, inHeader⟩ := List.mem_flatMap.mp member
  obtain ⟨column, inBody, rfl⟩ := List.mem_map.mp inHeader
  obtain ⟨fragment, _, parsed⟩ := List.mem_filterMap.mp inBody
  exact ⟨_, fragment.text, parsed⟩

end DumpRestore.Dump
