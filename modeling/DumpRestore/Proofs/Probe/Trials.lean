/-
This file proves what the two probes of an inspector say to the server, and what a call of them
comes to: a name that is no storage engine is refused, a cached result is given back and leaves the
session as it is, and otherwise the probe runs, after which its result is cached unless it ended in
a fault. The statements between the first and the last one are among a few that the library tries.
-/

import DumpRestore.Probe.Columns
import DumpRestore.Probe.Routines
import DumpRestore.Proofs.Cache
import DumpRestore.Proofs.Probe.Inspector

namespace DumpRestore.Inspector

variable (inspector : Inspector)

/-! ### Generated columns -/

/-- What may be tried on a throwaway table. -/
def columnTrials (table engine : Text) : List Statement :=
  [createTable table engine, addPersistentColumn table, addNotNullColumn table,
    insertIgnore table, createIndex table].map ({ sql := · })

section Columns

variable (table engine : Text)

theorem meets_tryColumns :
    (inspector.tryColumns table).Meets
      (inspector.connection.MaySay (· ∈ columnTrials table engine)) (fun _ => True)
      Fault.IsIncident := by
  have tried (sql : Text) (member : { sql } ∈ columnTrials table engine) :=
    Connection.maySay_of_meets member (inspector.meets_accepts sql)
  have inserted : { sql := insertIgnore table } ∈ columnTrials table engine := by
    simp [columnTrials]
  refine (tried _ (by simp [columnTrials])).bind fun _ _ => ?_
  refine (tried _ (by simp [columnTrials])).bind fun _ _ => ?_
  refine (Connection.maySay_of_meets inserted (inspector.connection.meets_query _ none)).bind
    fun _ _ => ?_
  exact (tried _ (by simp [columnTrials])).bind fun _ _ => Action.meets_pure trivial

theorem begins_probeColumns :
    (inspector.probeColumns table engine).Meets
      (inspector.connection.Begins { sql := dropTable table } (· ∈ columnTrials table engine))
      (fun _ => True) Fault.IsIncident := by
  have created : { sql := createTable table engine } ∈ columnTrials table engine := by
    simp [columnTrials]
  refine Connection.begins_bind (inspector.connection.meets_query (dropTable table) none)
    fun _ => ?_
  refine (Connection.maySay_of_meets created (inspector.meets_accepts _)).bind
    fun accepted _ => ?_
  cases accepted with
  | true => exact (inspector.meets_tryColumns table engine).map some fun _ _ => trivial
  | false =>
    exact inspector.connection.meets_standing.bind fun _ _ =>
      (inspector.connection.meets_report _ _ _).bind fun _ _ => Action.meets_pure trivial

end Columns

/-! ### Stored routines -/

/-- What may be tried with the throwaway function, and what is asked about binary logging. -/
def routineTrials : List Statement :=
  [{ sql := "SHOW GLOBAL VARIABLES LIKE %s", parameters := some [.text (Like.escape "log_bin")] },
    { sql := createRoutine }, { sql := replaceRoutine }, { sql := createMissingRoutine },
    { sql := replaceAggregate }, { sql := "SELECT @@GLOBAL.log_bin" },
    { sql := "SELECT @@GLOBAL.log_bin_trust_function_creators" }]

theorem meets_normalizeSwitch {relation : Session → Session → Prop} [IsPreorder Session relation]
    (setting : Value) :
    (normalizeSwitch setting).Meets relation (fun _ => True) Fault.IsIncident := by
  refine (Action.meets_decode setting fun _ _ => nofun).bind fun decoded _ => ?_
  split
  · exact Action.meets_pure trivial
  · exact Action.meets_pure trivial
  · split
    · exact Action.meets_pure trivial
    · split <;> exact Action.meets_pure trivial
  · exact Action.meets_pure trivial

section Routines

theorem meets_value (sql : Text) (member : { sql } ∈ routineTrials) :
    (inspector.connection.value sql).Meets (inspector.connection.MaySay (· ∈ routineTrials))
      (fun _ => True) Fault.IsIncident := by
  refine (Connection.maySay_of_meets member (inspector.connection.meets_rows sql none)).bind
    fun rows _ => ?_
  split <;> exact Action.meets_pure trivial

theorem meets_binaryLogging :
    inspector.binaryLogging.Meets (inspector.connection.MaySay (· ∈ routineTrials))
      (fun _ => True) Fault.IsIncident := by
  have member : ⟨"SHOW GLOBAL VARIABLES LIKE %s", some [.text (Like.escape "log_bin")]⟩ ∈
      routineTrials := by
    simp [routineTrials]
  refine (inspector.meets_value _ (by simp [routineTrials])).bind fun status _ => ?_
  split
  · exact (Connection.maySay_of_meets member (inspector.connection.meets_rows _ _)).bind
      fun listing _ => meets_normalizeSwitch _
  · exact meets_normalizeSwitch _

theorem meets_creatorsTrusted :
    inspector.creatorsTrusted.Meets (inspector.connection.MaySay (· ∈ routineTrials))
      (fun _ => True) Fault.IsIncident := by
  refine (inspector.meets_value _ (by simp [routineTrials])).bind fun setting _ =>
    (meets_normalizeSwitch setting).bind fun trusted _ => ?_
  split <;> exact Action.meets_pure trivial

theorem meets_tryRoutines :
    inspector.tryRoutines.Meets (inspector.connection.MaySay (· ∈ routineTrials))
      (fun _ => True) Fault.IsIncident := by
  have tried (sql : Text) (member : { sql } ∈ routineTrials) :=
    Connection.maySay_of_meets member (inspector.meets_accepts sql)
  refine (tried _ (by simp [routineTrials])).bind fun _ _ => ?_
  refine (tried _ (by simp [routineTrials])).bind fun _ _ => ?_
  refine (tried _ (by simp [routineTrials])).bind fun _ _ => ?_
  refine inspector.meets_binaryLogging.bind fun _ _ => ?_
  exact inspector.meets_creatorsTrusted.map _ fun _ _ => trivial

/-- A result that says something about routines. -/
def AboutRoutines : ProbeResult → Prop
  | .columns _ => False
  | .routines _ | .failed _ => True

theorem begins_probeRoutines :
    inspector.probeRoutines.Meets
      (inspector.connection.Begins { sql := dropRoutine } (· ∈ routineTrials)) AboutRoutines
      Fault.IsIncident := by
  have created : { sql := createRoutine } ∈ routineTrials := by simp [routineTrials]
  refine Connection.begins_bind (inspector.connection.meets_query dropRoutine none) fun _ => ?_
  refine (Connection.maySay_of_meets created (inspector.meets_accepts _)).bind
    fun accepted _ => ?_
  cases accepted with
  | true => exact inspector.meets_tryRoutines.map _ fun _ _ => trivial
  | false => exact inspector.connection.meets_standing.map _ fun _ _ => trivial

end Routines

/-! ### What a call comes to -/

/-- The session in which a result is cached, unless there was one. -/
def remembering (name : Text) (result : ProbeResult) (session : Session) : Session :=
  { session with
    caches := update session.caches inspector.cache
      ((session.caches inspector.cache).store name result).2 }

theorem caches_remembering (name : Text) (result : ProbeResult) (session : Session) :
    (inspector.remembering name result session).caches inspector.cache =
      ((session.caches inspector.cache).store name result).2 :=
  update_self ..

/-- The throwaway table of a probe in a session, in backticks. -/
def throwawayTable (session : Session) : Text :=
  Identifier.backquote (tableName inspector.tablePrefix session.random session.clock)

theorem run_cached? (name : Text) (session : Session) :
    inspector.cached? name session =
      (.ok ((session.caches inspector.cache).get? name), session) := rfl

theorem run_store (name : Text) (result : ProbeResult) (session : Session) :
    inspector.store name result session =
      (.ok ((session.caches inspector.cache).store name result).1,
        inspector.remembering name result session) := rfl

/-- A name that the probe of generated columns takes for a storage engine. -/
def IsEngine (engine : Text) : Prop :=
  engine = [] ∨ Identifier.isPlain engine = true

theorem refuses_iff (engine : Text) :
    (!engine.isEmpty && !Identifier.isPlain engine) = true ↔ ¬ IsEngine engine := by
  rw [IsEngine, Bool.and_eq_true, Bool.not_eq_true', Bool.not_eq_true', not_or,
    List.isEmpty_eq_false_iff, Bool.not_eq_true]

section ColumnSupport

variable (engine : Text) (session : Session)

theorem columnSupport_refused (invalid : ¬ IsEngine engine) :
    inspector.columnSupport engine session = (.error (.invalidEngine engine), session) := by
  unfold columnSupport
  rw [if_pos ((refuses_iff engine).mpr invalid)]
  rfl

theorem columnSupport_cached (valid : IsEngine engine) (result : ProbeResult)
    (found : (session.caches inspector.cache).get? (columnsKey engine) = some result) :
    inspector.columnSupport engine session =
      (.ok (match result with
        | .columns support => support
        | _ => none), session) := by
  have cached := inspector.run_cached? (columnsKey engine) session
  rw [found] at cached
  unfold columnSupport
  rw [if_neg fun refused => (refuses_iff engine).mp refused valid]
  show (inspector.cached? (columnsKey engine) >>= _) session = _
  rw [Action.run_bind_ok _ cached]
  cases result <;> rfl

/-- A probe whose result is not cached runs, and its result is cached. -/
theorem columnSupport_probed (valid : IsEngine engine)
    (missing : (session.caches inspector.cache).get? (columnsKey engine) = none) :
    inspector.columnSupport engine session =
      match inspector.suppressed (some (dropTable (inspector.throwawayTable session)))
        (inspector.probeColumns (inspector.throwawayTable session) engine) session with
      | (.ok support, after) =>
        (.ok support, inspector.remembering (columnsKey engine) (.columns support) after)
      | (.error fault, after) => (.error fault, after) := by
  have cached := inspector.run_cached? (columnsKey engine) session
  rw [missing] at cached
  have caches := inspector.caches_suppressed _
    (inspector.begins_probeColumns (inspector.throwawayTable session) engine).keeps session
  -- The name of the table is hidden, since the digest in it is costly to unfold.
  unfold columnSupport throwawayTable at *
  generalize tableName = naming at caches ⊢
  rw [if_neg fun refused => (refuses_iff engine).mp refused valid]
  show (inspector.cached? (columnsKey engine) >>= _) session = _
  rw [Action.run_bind_ok _ cached]
  dsimp only
  rw [Action.run_bind_ok _ (Action.run_get session), Action.run_bind]
  generalize Identifier.backquote (naming inspector.tablePrefix session.random session.clock) =
    table at caches ⊢
  generalize inspector.suppressed (some (dropTable table)) (inspector.probeColumns table engine)
    session = reached at caches ⊢
  rcases reached with ⟨fault | support, after⟩
  · rfl
  · have stored := inspector.run_store (columnsKey engine) (.columns support) after
    rw [Cache.store_of_missing _ _ _ (by rw [caches, missing])] at stored
    dsimp only
    rw [Action.run_bind_ok _ stored]
    rfl

/-- Where nothing is cached the probe runs, and the caches are all that changes after it. -/
theorem columnSupport_of_missing (valid : IsEngine engine)
    (missing : (session.caches inspector.cache).get? (columnsKey engine) = none) :
    ∃ caches, (inspector.columnSupport engine session).2 =
      { (inspector.suppressed (some (dropTable (inspector.throwawayTable session)))
          (inspector.probeColumns (inspector.throwawayTable session) engine) session).2 with
        caches } := by
  rw [inspector.columnSupport_probed engine session valid missing]
  generalize inspector.suppressed _ _ session = reached
  rcases reached with ⟨fault | support, after⟩
  · exact ⟨after.caches, rfl⟩
  · exact ⟨_, rfl⟩

/-- A call changes nothing, or the name is that of an engine and the probe runs. -/
theorem columnSupport_cases :
    (∃ outcome, inspector.columnSupport engine session = (outcome, session)) ∨
    IsEngine engine ∧ ∃ caches, (inspector.columnSupport engine session).2 =
      { (inspector.suppressed (some (dropTable (inspector.throwawayTable session)))
          (inspector.probeColumns (inspector.throwawayTable session) engine) session).2 with
        caches } := by
  by_cases valid : IsEngine engine
  · cases found : (session.caches inspector.cache).get? (columnsKey engine) with
    | some result =>
      exact .inl ⟨_, inspector.columnSupport_cached engine session valid result found⟩
    | none => exact .inr ⟨valid, inspector.columnSupport_of_missing engine session valid found⟩
  · exact .inl ⟨_, inspector.columnSupport_refused engine session valid⟩

end ColumnSupport

section RoutineSupport

variable (session : Session)

/-- What a result of the probe of routines comes to. -/
def outcomeOf : ProbeResult → Except Fault RoutineSupport
  | .routines support => .ok support
  | .failed failure => .error (.queryFailed failure)
  | .columns _ => .error (.queryFailed (creationFailure []))

/-- The session in which a result that was found out is reported, where it is a failure. -/
def reporting (result : ProbeResult) (session : Session) : Session :=
  match result with
  | .failed failure => (Action.report inspector.reporter .error failure.message session).2
  | .routines _ | .columns _ => session

theorem caches_reporting (result : ProbeResult) :
    (inspector.reporting result session).caches = session.caches := by
  cases result <;> rfl

theorem routineSupport_cached (result : ProbeResult) (about : AboutRoutines result)
    (found : (session.caches inspector.cache).get? routinesKey = some result) :
    inspector.routineSupport session = (outcomeOf result, session) := by
  have cached := inspector.run_cached? routinesKey session
  rw [found] at cached
  unfold routineSupport
  rw [Action.run_bind_ok _ cached]
  cases result with
  | columns support => cases about
  | routines support => rfl
  | failed failure => rfl

/-- A probe of routines whose result is not cached runs, and its result is cached, also where it
is a failure. -/
theorem routineSupport_probed
    (unknown : ∀ result, (session.caches inspector.cache).get? routinesKey = some result →
      ¬ AboutRoutines result) :
    inspector.routineSupport session =
      match inspector.suppressed (some dropRoutine) inspector.probeRoutines session with
      | (.ok result, after) =>
        let kept := ((after.caches inspector.cache).store routinesKey result).1
        (outcomeOf kept, inspector.reporting kept (inspector.remembering routinesKey result after))
      | (.error fault, after) => (.error fault, after) := by
  have cached := inspector.run_cached? routinesKey session
  have begun : inspector.routineSupport session =
      (inspector.suppressed (some dropRoutine) inspector.probeRoutines >>= fun result =>
        inspector.store routinesKey result >>= fun kept =>
          match kept with
          | .routines support => pure support
          | .failed failure =>
            Action.report inspector.reporter .error failure.message >>= fun _ =>
              throw (.queryFailed failure)
          | .columns _ => throw (.queryFailed (creationFailure []))) session := by
    unfold routineSupport
    rw [Action.run_bind_ok _ cached]
    cases found : (session.caches inspector.cache).get? routinesKey with
    | none => rfl
    | some result =>
      cases result with
      | columns support => rfl
      | routines support => exact absurd trivial (unknown _ found)
      | failed failure => exact absurd trivial (unknown _ found)
  rw [begun, Action.run_bind]
  generalize inspector.suppressed (some dropRoutine) inspector.probeRoutines session = reached
  rcases reached with ⟨fault | result, after⟩
  · rfl
  · dsimp only
    rw [Action.run_bind_ok _ (inspector.run_store routinesKey result after)]
    cases ((after.caches inspector.cache).store routinesKey result).1 <;> rfl

/-- Where nothing about routines is cached the probe runs, and the caches and the log are all that
changes after it. -/
theorem routineSupport_of_unknown
    (unknown : ∀ result, (session.caches inspector.cache).get? routinesKey = some result →
      ¬ AboutRoutines result) :
    ∃ caches journal, (inspector.routineSupport session).2 =
      { (inspector.suppressed (some dropRoutine) inspector.probeRoutines session).2 with
        caches, journal } := by
  rw [inspector.routineSupport_probed session unknown]
  generalize inspector.suppressed (some dropRoutine) inspector.probeRoutines session = reached
  rcases reached with ⟨fault | result, after⟩
  · exact ⟨after.caches, after.journal, rfl⟩
  · dsimp only
    cases ((after.caches inspector.cache).store routinesKey result).1 <;> exact ⟨_, _, rfl⟩

/-- A call changes nothing, or the probe runs. -/
theorem routineSupport_cases :
    (∃ outcome, inspector.routineSupport session = (outcome, session)) ∨
    ∃ caches journal, (inspector.routineSupport session).2 =
      { (inspector.suppressed (some dropRoutine) inspector.probeRoutines session).2 with
        caches, journal } := by
  by_cases known : ∃ result, (session.caches inspector.cache).get? routinesKey = some result ∧
      AboutRoutines result
  · obtain ⟨result, found, about⟩ := known
    exact .inl ⟨_, inspector.routineSupport_cached session result about found⟩
  · exact .inr (inspector.routineSupport_of_unknown session
      fun result found about => known ⟨result, found, about⟩)

end RoutineSupport

end DumpRestore.Inspector
