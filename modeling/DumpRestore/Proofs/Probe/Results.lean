/-
This file proves what the probes of an inspector leave in its cache. A probe that has a result
stores it, and a call that ends in a fault which is no result of the probe stores nothing. The
results of the two probes are of different sorts and stand under different names, so that what one
of them stores is never taken for what the other one looks for.
-/

import DumpRestore.Proofs.Probe.Trials

namespace DumpRestore

namespace Inspector

variable (inspector : Inspector)

/-! ### Outcomes -/

/-- A cleanup changes nothing in what a probe comes to. -/
theorem isOutcome_suppressed {Result : Type} {relation : Session → Session → Prop}
    {value : Result → Prop} {probe : Action Result}
    (meets : probe.Meets relation value Fault.IsIncident) (cleanup : Text) (session : Session) :
    Action.IsOutcome value Fault.IsIncident
      (inspector.suppressed (some cleanup) probe session).1 := by
  have cleans := (inspector.connection.meets_query cleanup none
    (probe (inspector.connection.withSuppressed true session)).2).2
  rw [run_suppressed_some]
  generalize inspector.connection.query cleanup none
    (probe (inspector.connection.withSuppressed true session)).2 = reached at cleans ⊢
  rcases reached with ⟨_ | _, cleaned⟩
  · exact cleans
  · exact (meets _).2

/-- A failure that is the result of a probe is no incident. -/
theorem not_isIncident_of_outcomeOf {result : ProbeResult} {fault : Fault}
    (same : outcomeOf result = .error fault) : ¬ fault.IsIncident := by
  intro incident
  cases result with
  | columns support =>
    cases same
    exact incident _ rfl
  | routines support => cases same
  | failed failure =>
    cases same
    exact incident _ rfl

/-! ### Names of results -/

theorem columnsKey_injective (first second : Text) (same : columnsKey first = columnsKey second) :
    first = second :=
  List.append_cancel_left same

theorem columnsKey_ne_routinesKey (engine : Text) : columnsKey engine ≠ routinesKey := by
  intro same
  have heads : some 'g' = some 's' := congrArg List.head? same
  exact absurd heads (by decide)

/-- A result that says something about generated columns. -/
def AboutColumns : ProbeResult → Prop
  | .columns _ => True
  | .routines _ | .failed _ => False

/-- Every result stands under a name for results of its sort. -/
structure Sorted (cache : Cache ProbeResult) : Prop where
  columns : ∀ engine result, cache.get? (columnsKey engine) = some result → AboutColumns result
  routines : ∀ result, cache.get? routinesKey = some result → AboutRoutines result

/-- What one call can do to the cache of an inspector: nothing, or store a result of some sort under
a name where none stood. -/
inductive Writes (name : Text) (sort : ProbeResult → Prop) (before after : Cache ProbeResult) :
    Prop where
  | nothing (same : after = before)
  | stored (result : ProbeResult) (fits : sort result) (missing : before.get? name = none)
      (written : after = (before.store name result).2)

section Writes

variable {name : Text} {sort : ProbeResult → Prop} {before after : Cache ProbeResult}

/-- Results are never changed or removed. -/
theorem Writes.get?_eq_some (writes : Writes name sort before after) (other : Text)
    (result : ProbeResult) (found : before.get? other = some result) :
    after.get? other = some result := by
  cases writes with
  | nothing same => rw [same, found]
  | stored new fits missing written =>
    rw [written]
    exact before.get?_store_of_found name new other result found

theorem Writes.get?_of_ne (writes : Writes name sort before after) (other : Text)
    (different : other ≠ name) : after.get? other = before.get? other := by
  cases writes with
  | nothing same => rw [same]
  | stored new fits missing written =>
    rw [written]
    exact before.get?_store_of_ne name new other different

/-- What stands under the name stays of its sort. -/
theorem Writes.fits (writes : Writes name sort before after)
    (fitted : ∀ result, before.get? name = some result → sort result) (result : ProbeResult)
    (found : after.get? name = some result) : sort result := by
  cases writes with
  | nothing same => exact fitted result (same ▸ found)
  | stored new fits missing written =>
    rw [written, before.get?_store_of_missing name new missing] at found
    exact Option.some.inj found ▸ fits

theorem Writes.sorted_of_columns {engine : Text}
    (writes : Writes (columnsKey engine) AboutColumns before after) (sorted : Sorted before) :
    Sorted after where
  columns other result found := by
    by_cases same : other = engine
    · subst same
      exact writes.fits (sorted.columns other) result found
    · rw [writes.get?_of_ne _ fun keys => same (columnsKey_injective _ _ keys)] at found
      exact sorted.columns other result found
  routines result found := by
    rw [writes.get?_of_ne _ (columnsKey_ne_routinesKey engine).symm] at found
    exact sorted.routines result found

theorem Writes.sorted_of_routines (writes : Writes routinesKey AboutRoutines before after)
    (sorted : Sorted before) : Sorted after where
  columns engine result found := by
    rw [writes.get?_of_ne _ (columnsKey_ne_routinesKey engine)] at found
    exact sorted.columns engine result found
  routines := writes.fits sorted.routines

end Writes

/-! ### Calls -/

section Calls

variable (session : Session) (sorted : Sorted (session.caches inspector.cache))

include sorted

/-- A call for an engine gives what stands under its name afterwards, or ends in a fault, where
nothing stood and nothing is stored. -/
theorem columnSupport_ends (engine : Text) :
    (∃ support after, IsEngine engine ∧
      inspector.columnSupport engine session = (.ok support, after) ∧
      (after.caches inspector.cache).get? (columnsKey engine) = some (.columns support) ∧
      Writes (columnsKey engine) AboutColumns (session.caches inspector.cache)
        (after.caches inspector.cache)) ∨
    (∃ fault after, inspector.columnSupport engine session = (.error fault, after) ∧
      after.caches = session.caches ∧
      (IsEngine engine → (session.caches inspector.cache).get? (columnsKey engine) = none)) := by
  by_cases valid : IsEngine engine
  · cases found : (session.caches inspector.cache).get? (columnsKey engine) with
    | some result =>
      have about := sorted.columns engine result found
      have cached := inspector.columnSupport_cached engine session valid result found
      cases result with
      | columns support => exact .inl ⟨support, session, valid, cached, found, .nothing rfl⟩
      | routines support => cases about
      | failed failure => cases about
    | none =>
      have kept := inspector.caches_suppressed _
        (inspector.begins_probeColumns (inspector.throwawayTable session) engine).keeps session
      rw [inspector.columnSupport_probed engine session valid found]
      generalize inspector.suppressed (some (dropTable (inspector.throwawayTable session)))
        (inspector.probeColumns (inspector.throwawayTable session) engine) session =
          reached at kept ⊢
      rcases reached with ⟨fault | support, after⟩
      · exact .inr ⟨fault, after, rfl, kept, fun _ => rfl⟩
      · have caches := inspector.caches_remembering (columnsKey engine) (.columns support) after
        rw [kept] at caches
        refine .inl ⟨support, _, valid, rfl, ?_, .stored (.columns support) trivial found caches⟩
        rw [caches, Cache.get?_store_of_missing _ _ _ found]
  · exact .inr ⟨.invalidEngine engine, session,
      inspector.columnSupport_refused engine session valid, rfl, fun engine => absurd engine valid⟩

/-- A call for routines comes to what stands under its name afterwards, be it a failure, or ends in
another fault, where nothing stood and nothing is stored. -/
theorem routineSupport_ends :
    (∃ result after, AboutRoutines result ∧
      inspector.routineSupport session = (outcomeOf result, after) ∧
      (after.caches inspector.cache).get? routinesKey = some result ∧
      Writes routinesKey AboutRoutines (session.caches inspector.cache)
        (after.caches inspector.cache)) ∨
    (∃ fault after, fault.IsIncident ∧
      inspector.routineSupport session = (.error fault, after) ∧
      after.caches = session.caches ∧
      (session.caches inspector.cache).get? routinesKey = none) := by
  cases found : (session.caches inspector.cache).get? routinesKey with
  | some result =>
    have about := sorted.routines result found
    exact .inl ⟨result, session, about, inspector.routineSupport_cached session result about found,
      found, .nothing rfl⟩
  | none =>
    have kept := inspector.caches_suppressed _ inspector.begins_probeRoutines.keeps session
    have comes := inspector.isOutcome_suppressed inspector.begins_probeRoutines dropRoutine session
    rw [inspector.routineSupport_probed session
      fun result stands => by rw [found] at stands; cases stands]
    generalize inspector.suppressed (some dropRoutine) inspector.probeRoutines session =
      reached at kept comes ⊢
    rcases reached with ⟨fault | result, after⟩
    · exact .inr ⟨fault, after, comes, rfl, kept, rfl⟩
    · have stored : ((after.caches inspector.cache).store routinesKey result).1 = result := by
        rw [Cache.store_of_missing _ _ _ (by rw [kept, found])]
      have caches := inspector.caches_remembering routinesKey result after
      rw [kept, ← inspector.caches_reporting _ result] at caches
      dsimp only
      rw [stored]
      refine .inl ⟨result, _, comes, rfl, ?_, .stored result comes found caches⟩
      rw [caches, Cache.get?_store_of_missing _ _ _ found]

omit sorted

/-- What is asked for an engine without a result starts with a drop of its throwaway table. -/
theorem exists_asked_columnSupport {engine : Text} (valid : IsEngine engine)
    (missing : (session.caches inspector.cache).get? (columnsKey engine) = none) :
    ∃ statements, Asked inspector.connection
      ({ sql := dropTable (inspector.throwawayTable session) } :: statements) session
      (inspector.columnSupport engine session).2 := by
  obtain ⟨caches, run⟩ := inspector.columnSupport_of_missing engine session valid missing
  obtain ⟨between, _, asked⟩ := inspector.exists_asked_suppressed _
    (inspector.begins_probeColumns (inspector.throwawayTable session) engine).keeps session
  rw [List.cons_append] at asked
  rw [run]
  exact ⟨_, { asked with }⟩

/-- What is asked for routines without a result starts with a drop of the throwaway function. -/
theorem exists_asked_routineSupport
    (missing : (session.caches inspector.cache).get? routinesKey = none) :
    ∃ statements, Asked inspector.connection ({ sql := dropRoutine } :: statements) session
      (inspector.routineSupport session).2 := by
  obtain ⟨caches, journal, run⟩ := inspector.routineSupport_of_unknown session
    fun result found => by rw [missing] at found; cases found
  obtain ⟨between, _, asked⟩ := inspector.exists_asked_suppressed dropRoutine
    inspector.begins_probeRoutines.keeps session
  rw [List.cons_append] at asked
  rw [run]
  exact ⟨_, { asked with }⟩

end Calls

end Inspector

end DumpRestore
