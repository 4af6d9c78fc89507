/-
This file proves what is common to all probes of an inspector. A probe is a conversation in which
errors are suppressed; the cleanup is one more statement, asked whatever became of the probe.
Afterwards suppression is what it was before, unless the cleanup itself crashed: then the inspector
does not come to put it back.
-/

import DumpRestore.Probe.Inspector
import DumpRestore.Proofs.Session.Conversation

namespace DumpRestore

namespace Connection

variable (connection : Connection)

/-- The session with the suppression of errors on a connection turned on or off. -/
def withSuppressed (value : Bool) (session : Session) : Session :=
  { session with
    standings := update session.standings connection.key
      { session.standings connection.key with suppressed := value } }

/-- Whether errors on a connection are suppressed. -/
def isSuppressed (session : Session) : Bool :=
  (session.standings connection.key).suppressed

@[simp] theorem isSuppressed_withSuppressed (value : Bool) (session : Session) :
    connection.isSuppressed (connection.withSuppressed value session) = value := by
  show (update session.standings connection.key _ connection.key).suppressed = value
  rw [update_self]

theorem asked_withSuppressed (value : Bool) (session : Session) :
    Asked connection [] session (connection.withSuppressed value session) :=
  .nil rfl rfl rfl rfl

end Connection

/-! ### Crashes -/

/-- The latest request to a server ended in a crash. -/
def Session.EndsInCrash (server : Text) (session : Session) : Prop :=
  ∃ request earlier crash, session.received server = request :: earlier ∧
    (session.servers server).respond earlier request = .error (.crashed crash)

namespace Connection

variable (connection : Connection)

/-- A statement that a connection is given either has a result, which may be that it was refused, or
ends in a crash. -/
theorem attempt_ok_or_crash (statement : Statement) (session : Session) :
    (∃ result, (connection.attempt statement session).1 = .ok result ∧
      ¬ (connection.attempt statement session).2.EndsInCrash connection.server) ∨
    (∃ fault, (connection.attempt statement session).1 = .error fault ∧
      (connection.attempt statement session).2.EndsInCrash connection.server) := by
  have asked := (connection.conversation_attempt statement session).toAsked
  obtain ⟨request, earlier, latest, answered⟩ :=
    (session.servers connection.server).exists_ask (session.received connection.server) statement
  have received : (connection.attempt statement session).2.received connection.server =
      request :: earlier := by
    rw [asked.received, update_self]
    exact latest
  have crashes : (connection.attempt statement session).2.EndsInCrash connection.server ↔
      ∃ crash, ((session.servers connection.server).ask (session.received connection.server)
        statement).1 = .error (.crashed crash) := by
    unfold Session.EndsInCrash
    rw [received, asked.servers, ← answered]
    constructor
    · rintro ⟨_, _, crash, equal, crashed⟩
      cases equal
      exact ⟨crash, crashed⟩
    · rintro ⟨crash, crashed⟩
      exact ⟨request, earlier, crash, rfl, crashed⟩
  rw [crashes, run_attempt]
  dsimp only
  cases ((session.servers connection.server).ask (session.received connection.server)
      statement).1 with
  | ok result => exact .inl ⟨some result, rfl, nofun⟩
  | error failure =>
    cases failure with
    | refused error => exact .inl ⟨none, rfl, nofun⟩
    | crashed crash => exact .inr ⟨.crashed crash, rfl, crash, rfl⟩

theorem query_ok_or_crash (sql : Text) (session : Session) :
    (∃ count after, connection.query sql none session = (.ok count, after) ∧
      ¬ after.EndsInCrash connection.server) ∨
    (∃ fault after, connection.query sql none session = (.error fault, after) ∧
      after.EndsInCrash connection.server) := by
  have attempted := connection.attempt_ok_or_crash { sql } session
  unfold query
  rw [Action.run_bind]
  generalize connection.attempt { sql } session = reached at attempted ⊢
  rcases reached with ⟨outcome, after⟩
  rcases attempted with ⟨result, rfl, calm⟩ | ⟨fault, rfl, crash⟩
  · exact .inl ⟨_, after, rfl, calm⟩
  · exact .inr ⟨fault, after, rfl, crash⟩

end Connection

namespace Inspector

variable (inspector : Inspector)

theorem meets_accepts (sql : Text) :
    (inspector.accepts sql).Meets (Conversation inspector.connection [{ sql }]) (fun _ => True)
      Fault.IsIncident :=
  (inspector.connection.meets_query sql none).map _ fun _ _ => trivial

/-! ### Suppression around a probe -/

section Suppressed

variable {Result : Type} {probe : Action Result}

theorem run_suppressed_none (session : Session) :
    inspector.suppressed none probe session =
      ((probe (inspector.connection.withSuppressed true session)).1,
        inspector.connection.withSuppressed (inspector.connection.isSuppressed session)
          (probe (inspector.connection.withSuppressed true session)).2) := by
  rfl

theorem run_suppressed_some (sql : Text) (session : Session) :
    inspector.suppressed (some sql) probe session =
      match inspector.connection.query sql none
        (probe (inspector.connection.withSuppressed true session)).2 with
      | (.ok _, cleaned) => ((probe (inspector.connection.withSuppressed true session)).1,
          inspector.connection.withSuppressed (inspector.connection.isSuppressed session) cleaned)
      | (.error fault, cleaned) => (.error fault, cleaned) := by
  have begun : inspector.suppressed (some sql) probe session =
      Action.ensuring probe (inspector.connection.query sql none >>= fun _ =>
        inspector.connection.suppress (inspector.connection.isSuppressed session) >>= fun _ =>
          pure ()) (inspector.connection.withSuppressed true session) := rfl
  rw [begun]
  unfold Action.ensuring
  rcases probe (inspector.connection.withSuppressed true session) with ⟨outcome, probed⟩
  dsimp only
  rw [Action.run_bind]
  rcases inspector.connection.query sql none probed with ⟨_ | _, cleaned⟩ <;> rfl

/-- After a probe the cleanup is asked. Where it crashes, suppression stays on and the outcome of
the probe is lost. -/
theorem suppressed_some_cases (probe : Action Result) (sql : Text) (session : Session) :
    let probed := probe (inspector.connection.withSuppressed true session)
    ∃ cleaned, Conversation inspector.connection [{ sql }] probed.2 cleaned ∧
      (¬ cleaned.EndsInCrash inspector.connection.server ∧
        inspector.suppressed (some sql) probe session =
          (probed.1, inspector.connection.withSuppressed
            (inspector.connection.isSuppressed session) cleaned) ∨
      cleaned.EndsInCrash inspector.connection.server ∧
        ∃ fault, inspector.suppressed (some sql) probe session = (.error fault, cleaned)) := by
  intro probed
  have spoken := (inspector.connection.meets_query sql none).keeps probed.2
  refine ⟨(inspector.connection.query sql none probed.2).2, spoken, ?_⟩
  rw [run_suppressed_some]
  obtain ⟨count, cleaned, run, calm⟩ | ⟨fault, cleaned, run, crash⟩ :=
    inspector.connection.query_ok_or_crash sql probed.2
  · rw [run]
    exact .inl ⟨calm, rfl⟩
  · rw [run]
    exact .inr ⟨crash, fault, rfl⟩

variable (cleanup : Text) {allowed : Statement → Prop}

section Bracket

variable (begins : probe.Keeps (inspector.connection.Begins { sql := cleanup } allowed))

include begins

/-- A probe that begins with its cleanup statement also ends with it. -/
theorem exists_asked_suppressed (session : Session) :
    ∃ between, (∀ statement ∈ between, allowed statement) ∧
      Asked inspector.connection ({ sql := cleanup } :: between ++ [{ sql := cleanup }]) session
        (inspector.suppressed (some cleanup) probe session).2 := by
  obtain ⟨between, permitted, said⟩ :=
    begins (inspector.connection.withSuppressed true session)
  obtain ⟨cleaned, last, ⟨_, run⟩ | ⟨_, _, run⟩⟩ :=
    inspector.suppressed_some_cases probe cleanup session
  all_goals
    rw [run]
    have asked := ((inspector.connection.asked_withSuppressed true session).trans
      said.toAsked).trans last.toAsked
    refine ⟨between, permitted, ?_⟩
  · have restored := inspector.connection.asked_withSuppressed
      (inspector.connection.isSuppressed session) cleaned
    have whole := asked.trans restored
    rwa [List.append_nil] at whole
  · exact asked

theorem caches_suppressed (session : Session) :
    (inspector.suppressed (some cleanup) probe session).2.caches = session.caches := by
  obtain ⟨_, _, said⟩ :=
    begins (inspector.connection.withSuppressed true session)
  obtain ⟨cleaned, last, ⟨_, run⟩ | ⟨_, _, run⟩⟩ :=
    inspector.suppressed_some_cases probe cleanup session
  all_goals
    rw [run]
    exact last.caches.trans said.caches

/-- Suppression is put back exactly where the last request did not crash; it is on otherwise. -/
theorem isSuppressed_suppressed (session : Session) :
    let after := (inspector.suppressed (some cleanup) probe session).2
    (¬ after.EndsInCrash inspector.connection.server ∧
        inspector.connection.isSuppressed after = inspector.connection.isSuppressed session) ∨
      (after.EndsInCrash inspector.connection.server ∧
        inspector.connection.isSuppressed after = true) := by
  obtain ⟨_, _, said⟩ :=
    begins (inspector.connection.withSuppressed true session)
  obtain ⟨cleaned, last, ⟨calm, run⟩ | ⟨crash, _, run⟩⟩ :=
    inspector.suppressed_some_cases probe cleanup session
  · rw [run]
    exact .inl ⟨calm, inspector.connection.isSuppressed_withSuppressed _ _⟩
  · rw [run]
    have kept := (last.suppressed inspector.connection.key).trans
      (said.suppressed inspector.connection.key)
    exact .inr ⟨crash, kept.trans (inspector.connection.isSuppressed_withSuppressed true session)⟩

end Bracket

end Suppressed

end Inspector

end DumpRestore
