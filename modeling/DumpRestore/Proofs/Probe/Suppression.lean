/-
This file proves when the calls of an inspector leave the suppression of errors as they found it.
Reading routines always does. A probe asks its cleanup statement before it puts suppression back, so
a crash of the cleanup leaves suppression on: a probe restores the state it found unless the last
request to the server crashed. A probe whose first statement crashes still restores it, as long as
the cleanup after it comes through.
-/

import DumpRestore.Probe.Catalog
import DumpRestore.Proofs.Probe.Trials
import DumpRestore.Server.Script

namespace DumpRestore.Inspector

section Suppression

variable (inspector : Inspector) (session : Session)

/-- The suppression of errors is the same after a call as before it, in every case in which the
call did not have to turn it on, did nothing, or came to its end without a crash. -/
def Restores (after : Session) : Prop :=
  inspector.connection.isSuppressed after = inspector.connection.isSuppressed session ↔
    inspector.connection.isSuppressed session = true ∨ after = session ∨
      ¬ after.EndsInCrash inspector.connection.server

/-- Caching a result and reporting a failure do not bear on suppression, so that a call restores it
where its probe does. -/
theorem restores_of_probe {Result : Type} {probe : Action Result} {allowed : Statement → Prop}
    (cleanup : Text)
    (begins : probe.Keeps (inspector.connection.Begins { sql := cleanup } allowed))
    (caches : Nat → Cache ProbeResult) (journal : Journal) :
    inspector.Restores session
      { (inspector.suppressed (some cleanup) probe session).2 with caches, journal } := by
  obtain ⟨calm, restored⟩ | ⟨crash, on⟩ :=
    inspector.isSuppressed_suppressed cleanup begins session
  · exact ⟨fun _ => .inr (.inr calm), fun _ => restored⟩
  · constructor
    · intro same
      exact .inl (same.symm.trans on)
    · rintro (before | same | calm)
      · exact on.trans before.symm
      · exact congrArg inspector.connection.isSuppressed same
      · exact absurd crash calm

theorem restores_self : inspector.Restores session session :=
  ⟨fun _ => .inr (.inl rfl), fun _ => rfl⟩

/-- The suppression of errors after each call of an inspector. A probe restores it exactly where it
was on before, where the call did nothing, or where the last request to the server did not crash;
reading routines restores it always. -/
theorem calls_restore_suppression :
    (∀ engine, inspector.Restores session (inspector.columnSupport engine session).2) ∧
      inspector.Restores session (inspector.routineSupport session).2 ∧
      inspector.connection.isSuppressed (inspector.storedRoutines session).2 =
        inspector.connection.isSuppressed session := by
  refine ⟨fun engine => ?_, ?_, ?_⟩
  · obtain ⟨outcome, run⟩ | ⟨_, caches, run⟩ := inspector.columnSupport_cases engine session
    · rw [run]
      exact inspector.restores_self session
    · rw [run]
      exact inspector.restores_of_probe session _
        (inspector.begins_probeColumns (inspector.throwawayTable session) engine).keeps caches _
  · obtain ⟨outcome, run⟩ | ⟨caches, journal, run⟩ := inspector.routineSupport_cases session
    · rw [run]
      exact inspector.restores_self session
    · rw [run]
      exact inspector.restores_of_probe session dropRoutine
        inspector.begins_probeRoutines.keeps caches journal
  · unfold storedRoutines
    rw [run_suppressed_none]
    exact inspector.connection.isSuppressed_withSuppressed _ _

end Suppression

/-- On a server that is lost while the throwaway function is dropped, errors stay suppressed. -/
theorem routineSupport_lost_connection :
    let server : Server :=
      { respond := Script.respond none
          [{ pattern := "DROP", uses := none, reply := .error (.crashed ⟨.network, "gone"⟩) }] }
    let session : Session := { servers := fun _ => server, clock := [], random := 0 }
    let inspector : Inspector :=
      { connection := .shared "main", cache := 0, tablePrefix := "wp_", reporter := .component }
    ¬ inspector.connection.isSuppressed (inspector.routineSupport session).2 =
      inspector.connection.isSuppressed session := by
  intro server session inspector
  decide

end DumpRestore.Inspector
