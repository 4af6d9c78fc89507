/-
This file says which columns of a dump get a statement that stores them. They are the ones whose
storage is to be changed, and besides them the ones whose definition is spaced otherwise than it
would be rebuilt: the statement is left out only where the rebuilt definition equals the text of the
dump with its blanks collapsed. A stored column may therefore get a statement that changes nothing.
-/

import DumpRestore.Proofs.Column.Unchanged
import DumpRestore.Proofs.Dump.Headers

namespace DumpRestore.Dump

/-- The statements that store some columns of a dump, in the order of the dump. -/
def statementsFor (onMariaDb : Bool) (chosen : Column → Bool) (dump : Text) : List Text :=
  ((columns dump).filter fun (_, column) => chosen column).map fun (table, column) =>
    column.alterToStored table (restoreSupport onMariaDb) ++ (";" : Text)

/-- The columns that get a statement are those that are to be stored and those whose spacing
rebuilding changes. -/
theorem alterStatements_eq_statementsFor (onMariaDb : Bool) (dump : Text) :
    alterStatements onMariaDb dump = statementsFor onMariaDb
      (fun column => decide (column.ToStore onMariaDb ∨ ¬ column.WellSpaced)) dump := by
  rw [statementsFor, ← List.filterMap_eq_map, List.filterMap_filter, alterStatements]
  refine List.filterMap_congr fun row member => ?_
  obtain ⟨offset, fragment, parsed⟩ := parsed_of_mem_columns dump row member
  have kept := Column.storedDefinition_eq_collapse_iff offset fragment row.2
    (restoreSupport onMariaDb) parsed rfl
  have supported : (restoreSupport onMariaDb).persistentSupported = onMariaDb := rfl
  rw [supported] at kept
  dsimp only
  by_cases altered : row.2.ToStore onMariaDb ∨ ¬ row.2.WellSpaced
  · have changes : ¬ row.2.storedDefinition (restoreSupport onMariaDb) =
        Text.collapse row.2.definition := by
      rw [kept, not_and_or, not_not]
      exact altered
    rw [if_neg changes, if_pos (decide_eq_true altered)]
    rfl
  · have keeps := kept.mpr (by simpa only [not_or, not_not] using altered)
    rw [if_pos keeps, if_neg (mt of_decide_eq_true altered)]

/-- A stored column gets a statement where no blank follows its name, and another one does where two
blanks stand in its name. -/
theorem alterStatements_stored :
    alterStatements false "CREATE TABLE \x60t\x60 (\x60a\x60int AS (1) STORED)" ≠
        statementsFor false (fun column => decide (column.ToStore false))
          "CREATE TABLE \x60t\x60 (\x60a\x60int AS (1) STORED)" ∧
      alterStatements true "CREATE TABLE \x60t\x60 (\x60a  b\x60 int AS (1) STORED)" ≠
        statementsFor true (fun column => decide (column.ToStore true))
          "CREATE TABLE \x60t\x60 (\x60a  b\x60 int AS (1) STORED)" := by
  decide +kernel

end DumpRestore.Dump
