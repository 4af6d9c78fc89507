/-
This file proves that probes clean up after themselves. A call that attempts anything drops its
throwaway object first and last, whatever the server answers and wherever it is lost, and what it
attempts between the two is about that object and nothing else.
-/

import DumpRestore.Proofs.Probe.Wording

namespace DumpRestore.Inspector

open Sql (Drops spares)

variable (inspector : Inspector) (session : Session)

/-- A call did nothing, or the statements that it attempted start and end with a drop of an object,
and those between the two drops spare everything but the object. -/
def CleansUp (sort : String) (object : Sql.Token) (after : Session) : Prop :=
  after = session ∨ ∃ first between last,
    Asked inspector.connection (first :: between ++ [last]) session after ∧
      Drops sort object first.sql ∧ Drops sort object last.sql ∧
      ∀ statement ∈ between, spares object statement.sql = true

/-- A probe between two drops of its object cleans up. What is cached and reported after it is not
said to the server. -/
theorem cleansUp_of_probe {Result : Type} {probe : Action Result} {allowed : Statement → Prop}
    (cleanup : Text)
    (begins : probe.Keeps (inspector.connection.Begins { sql := cleanup } allowed))
    (sort : String) (object : Sql.Token) (drops : Drops sort object cleanup)
    (spared : ∀ statement, allowed statement → spares object statement.sql = true)
    (caches : Nat → Cache ProbeResult) (journal : Journal) :
    inspector.CleansUp session sort object
      { (inspector.suppressed (some cleanup) probe session).2 with caches, journal } := by
  obtain ⟨between, permitted, asked⟩ := inspector.exists_asked_suppressed cleanup begins session
  exact .inr ⟨_, between, _, { asked with }, drops, drops,
    fun statement member => spared statement (permitted statement member)⟩

/-- Both probes drop their throwaway object first and last, and touch nothing else between. -/
theorem probes_clean_up :
    (∀ engine, inspector.CleansUp session "TABLE"
      (.name (tableName inspector.tablePrefix session.random session.clock))
      (inspector.columnSupport engine session).2) ∧
    inspector.CleansUp session "FUNCTION" (.word routineName)
      (inspector.routineSupport session).2 := by
  refine ⟨fun engine => ?_, ?_⟩
  · obtain ⟨outcome, run⟩ | ⟨valid, caches, run⟩ := inspector.columnSupport_cases engine session
    · rw [run]
      exact .inl rfl
    · rw [run]
      have begins := (inspector.begins_probeColumns (inspector.throwawayTable session) engine).keeps
      unfold throwawayTable at begins ⊢
      generalize tableName inspector.tablePrefix session.random session.clock = name at begins ⊢
      exact inspector.cleansUp_of_probe session _ begins "TABLE" (.name name) (drops_dropTable name)
        (spares_columnTrials name engine valid) caches _
  · obtain ⟨outcome, run⟩ | ⟨caches, journal, run⟩ := inspector.routineSupport_cases session
    · rw [run]
      exact .inl rfl
    · rw [run]
      exact inspector.cleansUp_of_probe session dropRoutine inspector.begins_probeRoutines.keeps
        "FUNCTION" (.word routineName) drops_dropRoutine spares_routineTrials caches journal

end DumpRestore.Inspector
