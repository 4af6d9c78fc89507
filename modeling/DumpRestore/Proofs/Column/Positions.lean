/-
This file describes where the columns of a statement stand. Each has an expression, behind the
position of the statement, and the expressions come in the order of the columns. Moving the
statement moves the positions in its columns and nothing else: what a column is rebuilt to does not
depend on where it stands.
-/

import DumpRestore.Proofs.Column.Tiling
import DumpRestore.Column.Stored
import Mathlib.Data.List.Basic

namespace DumpRestore

namespace Column

/-! ### The expression of a column -/

/-- The position of the expression of a column. -/
def expressionOffset? (column : Column) : Option Int :=
  (column.token? .expression).map Token.offset

/-- Every column that has been read has an expression, within its fragment and behind the first
character of it. -/
theorem exists_expressionOffset? (base : Int) (fragment : Text) (column : Column)
    (parsed : parse? base fragment = some column) :
    ∃ offset, column.expressionOffset? = some offset ∧ base < offset ∧
      offset ≤ base + fragment.length := by
  obtain ⟨head, found, closed⟩ := Option.bind_eq_some_iff.mp parsed
  obtain ⟨length, _, same⟩ := Option.map_eq_some_iff.mp closed
  obtain ⟨lead, opening⟩ := (Head.fits_of_find? fragment head found).exists_opening
  have present : ∃ token ∈ column.tokens, token.kind = .expression := by
    have nonempty : head.opening ++ head.rest.take length ≠ [] := by simp [opening]
    rw [← same, ofParts]
    dsimp only
    rw [tokensFrom_cons]
    split
    · rw [tokensFrom_cons_of_ne_nil _ _ _ _ nonempty]
      exact ⟨_, List.mem_cons_self, rfl⟩
    · rw [tokensFrom_cons_of_ne_nil _ _ _ _ nonempty]
      exact ⟨_, List.mem_cons_of_mem _ List.mem_cons_self, rfl⟩
  obtain ⟨token, member, kind⟩ := present
  have isFound : (column.tokens.find? fun token => token.kind == .expression).isSome := by
    rw [List.find?_isSome]
    exact ⟨token, member, beq_iff_eq.mpr kind⟩
  obtain ⟨first, isFirst⟩ := Option.isSome_iff_exists.mp isFound
  have tiles : column.Tiles fragment base := by
    have zero : base + (0 : Nat) = base := Int.add_zero base
    exact tiles_of_parse? fragment fragment base 0 column ⟨[], [], by simp, rfl⟩
      (zero.symm ▸ parsed)
  refine ⟨first.offset, ?_, tiles.within first (List.mem_of_find?_eq_some isFirst)⟩
  rw [expressionOffset?, token?, isFirst, Option.map_some]

/-! ### Columns elsewhere -/

/-- A column whose source has been moved. -/
def moved (distance : Int) (column : Column) : Column :=
  { column with tokens := column.tokens.map fun token =>
      { token with offset := distance + token.offset } }

theorem tokensFrom_add (distance offset : Int) (parts : List (TokenKind × Text)) :
    tokensFrom (distance + offset) parts = (tokensFrom offset parts).map fun token =>
      { token with offset := distance + token.offset } := by
  induction parts generalizing offset with
  | nil => rfl
  | cons part parts inductionHypothesis =>
    obtain ⟨kind, text⟩ := part
    rw [tokensFrom_cons, tokensFrom_cons]
    split
    · exact inductionHypothesis offset
    · rw [List.map_cons, ← inductionHypothesis, Int.add_assoc]

theorem attributeText_map_moved (distance : Int) (tokens : List Token) :
    attributeText (tokens.map fun token => { token with offset := distance + token.offset }) =
      attributeText tokens := by
  rw [attributeText, List.filter_map, List.map_map]
  rfl

theorem parse?_add (distance offset : Int) (fragment : Text) :
    parse? (distance + offset) fragment = (parse? offset fragment).map (moved distance) := by
  have parts (head : Head) (expression : Text) (tail : Tail) :
      ofParts (distance + offset) head expression tail =
        (ofParts offset head expression tail).moved distance := by
    simp only [ofParts, moved, Int.add_assoc, tokensFrom_add, attributeText_map_moved]
  rw [parse?, parse?, Option.map_bind]
  refine Option.bind_congr fun head _ => ?_
  rw [Function.comp_apply, Option.map_map]
  simp only [Function.comp_def, parts]

section Moved

variable (distance : Int) (column : Column) (support : ColumnSupport)

theorem name_moved : (column.moved distance).name = column.name := rfl

theorem storedParts_moved :
    (column.moved distance).storedParts support = column.storedParts support := by
  have part : storedPart column.isVirtual support ∘
      (fun token : Token => { token with offset := distance + token.offset }) =
      storedPart column.isVirtual support := by
    funext token
    rw [Function.comp_apply, storedPart, storedPart]
  simp only [storedParts, moved, List.map_map, part]

/-- What a column is rebuilt to does not depend on where it stands. -/
theorem storedDefinition_moved :
    (column.moved distance).storedDefinition support = column.storedDefinition support := by
  simp only [storedDefinition, storedParts_moved, name_moved]

theorem alterToStored_moved (table : Text) :
    (column.moved distance).alterToStored table support = column.alterToStored table support := by
  unfold alterToStored
  rw [storedDefinition_moved, name_moved]

end Moved

end Column

namespace TableBody

theorem columns_add (distance offset : Int) (statement : Text) :
    columns (distance + offset) statement =
      (columns offset statement).map (Column.moved distance) := by
  rw [columns, columns, List.map_filterMap]
  refine List.filterMap_congr fun fragment _ => ?_
  rw [Int.add_assoc, Column.parse?_add]

/-- The expressions of the columns of a statement come in order, behind its position. -/
theorem pairwise_columns (offset : Int) (statement : Text) :
    (columns offset statement).Pairwise fun first second =>
      ∃ before after, first.expressionOffset? = some before ∧
        second.expressionOffset? = some after ∧ before < after := by
  refine (pairwise_split statement).filterMap _ fun first second precedes column parsed other
    parsedToo => ?_
  obtain ⟨before, isBefore, _, ends⟩ := Column.exists_expressionOffset? _ _ column parsed
  obtain ⟨after, isAfter, starts, _⟩ := Column.exists_expressionOffset? _ _ other parsedToo
  refine ⟨before, after, isBefore, isAfter, ?_⟩
  rw [Precedes] at precedes
  omega

theorem lt_expressionOffset? (offset : Int) (statement : Text) (column : Column)
    (member : column ∈ columns offset statement) :
    ∃ position, column.expressionOffset? = some position ∧ offset < position := by
  obtain ⟨fragment, _, parsed⟩ := List.mem_filterMap.mp member
  obtain ⟨position, isPosition, behind, _⟩ := Column.exists_expressionOffset? _ _ column parsed
  exact ⟨position, isPosition, by omega⟩

end TableBody

end DumpRestore
