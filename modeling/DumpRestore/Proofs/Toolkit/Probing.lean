/-
This file proves that a toolkit probes its server once. A run of a toolkit is any sequence of its
operations, between which anything else may happen as long as nobody else writes to the cache of
the toolkit. In every session of such a run a result that was stored stands for good: once a probe
has come to a result, be it that nothing is supported or that the server failed, every later call
gives that result and leaves the session as it is. A probe that ends in another fault stores
nothing and is tried again, and the results for engines and for routines do not get in each other's
way.
-/

import DumpRestore.Proofs.Probe.Results
import DumpRestore.Proofs.Session.Caches
import DumpRestore.Proofs.Toolkit.Opening
import Mathlib.Logic.Relation

namespace DumpRestore.Toolkit

open Inspector

variable (toolkit : Toolkit)

/-! ### Runs -/

/-- The operations of a toolkit that have to do with its session. -/
inductive Operation where
  | version
  | isMariaDb
  | listTables
  | hasCompositePrimaryKey (table : Text) (connection : Option Connection)
  | readVariable (name : Text) (subject : Subject)
  | writeVariable (name : Text) (value : Value) (subject : Subject)
  | configure (add remove : List Text) (subject : Subject)
  | columnSupport (engine : Text)
  | routineSupport
  | storedRoutines
  | convertToStored (table : Text) (column : Column) (engine : Text)

/-- The session after an operation, whether it gives a value or ends in a fault. -/
def perform (session : Session) : Operation → Session
  | .version => (toolkit.version session).2
  | .isMariaDb => (toolkit.isMariaDb session).2
  | .listTables => (toolkit.listTables session).2
  | .hasCompositePrimaryKey table connection =>
    (toolkit.inspector.hasCompositePrimaryKey table connection session).2
  | .readVariable name subject => (toolkit.modes.readVariable name subject session).2
  | .writeVariable name value subject => (toolkit.modes.writeVariable name value subject session).2
  | .configure add remove subject => (toolkit.modes.configure add remove subject session).2
  | .columnSupport engine => (toolkit.inspector.columnSupport engine session).2
  | .routineSupport => (toolkit.inspector.routineSupport session).2
  | .storedRoutines => (toolkit.inspector.storedRoutines session).2
  | .convertToStored table column engine => (toolkit.convertToStored table column engine session).2

/-- The results that a toolkit has in a session. -/
def results (session : Session) : Cache ProbeResult :=
  session.caches toolkit.inspector.cache

/-- A step of a run: an operation, or anything that leaves the results of the toolkit alone. Time
passes, servers change, and others use the connection. -/
inductive Step : Session → Session → Prop where
  | operation (session : Session) (operation : Operation) :
      Step session (toolkit.perform session operation)
  | elsewhere {before after : Session} (same : toolkit.results after = toolkit.results before) :
      Step before after

/-- Any number of steps. -/
def Run : Session → Session → Prop :=
  Relation.ReflTransGen toolkit.Step

/-! ### What a step does to the results -/

theorem convertToStored_eq (table : Text) (column : Column) (engine : Text) (session : Session) :
    toolkit.convertToStored table column engine session =
      match toolkit.inspector.columnSupport engine session with
      | (.ok support, after) => (.ok (support.map (column.alterToStored table)), after)
      | (.error fault, after) => (.error fault, after) := by
  unfold convertToStored
  rw [Action.run_bind]
  rcases toolkit.inspector.columnSupport engine session with ⟨_ | _, _⟩ <;> rfl

theorem perform_convertToStored (table : Text) (column : Column) (engine : Text)
    (session : Session) :
    toolkit.perform session (.convertToStored table column engine) =
      toolkit.perform session (.columnSupport engine) := by
  unfold perform
  dsimp only
  rw [convertToStored_eq]
  rcases toolkit.inspector.columnSupport engine session with ⟨_ | _, _⟩ <;> rfl

section Steps

variable {toolkit} {session before next : Session}

theorem writes_columnSupport (engine : Text) (sorted : Sorted (toolkit.results session)) :
    Writes (columnsKey engine) AboutColumns (toolkit.results session)
      (toolkit.results (toolkit.inspector.columnSupport engine session).2) := by
  obtain ⟨support, after, _, run, _, writes⟩ | ⟨fault, after, run, same, _⟩ :=
    toolkit.inspector.columnSupport_ends session sorted engine
  · rw [run]
    exact writes
  · rw [run]
    exact .nothing (congrFun same _)

theorem writes_routineSupport (sorted : Sorted (toolkit.results session)) :
    Writes routinesKey AboutRoutines (toolkit.results session)
      (toolkit.results (toolkit.inspector.routineSupport session).2) := by
  obtain ⟨result, after, _, run, _, writes⟩ | ⟨fault, after, _, run, same, _⟩ :=
    toolkit.inspector.routineSupport_ends session sorted
  · rw [run]
    exact writes
  · rw [run]
    exact .nothing (congrFun same _)

/-- A step leaves the results alone, or stores the result of a probe. -/
theorem Step.cases (step : toolkit.Step before next) (sorted : Sorted (toolkit.results before)) :
    toolkit.results next = toolkit.results before ∨
      (∃ engine, Writes (columnsKey engine) AboutColumns (toolkit.results before)
        (toolkit.results next)) ∨
      Writes routinesKey AboutRoutines (toolkit.results before) (toolkit.results next) := by
  have kept {Result : Type} {action : Action Result} (keeps : action.Keeps SameCaches) :
      toolkit.results (action before).2 = toolkit.results before :=
    congrFun (keeps before) _
  cases step with
  | elsewhere same => exact .inl same
  | operation operation =>
    cases operation with
    | version => exact .inl (kept toolkit.keeps_version)
    | isMariaDb => exact .inl (kept toolkit.keeps_isMariaDb)
    | listTables => exact .inl (kept toolkit.keeps_listTables)
    | hasCompositePrimaryKey table connection =>
      exact .inl (kept (toolkit.inspector.keeps_hasCompositePrimaryKey table connection))
    | readVariable name subject => exact .inl (kept (DirectConnection.keeps_readVariable _ name))
    | writeVariable name value subject =>
      exact .inl (kept (DirectConnection.keeps_writeVariable _ name value))
    | configure add remove subject =>
      exact .inl (kept (toolkit.modes.keeps_configure add remove subject))
    | storedRoutines => exact .inl (kept toolkit.inspector.keeps_storedRoutines)
    | columnSupport engine => exact .inr (.inl ⟨engine, writes_columnSupport engine sorted⟩)
    | convertToStored table column engine =>
      rw [perform_convertToStored]
      exact .inr (.inl ⟨engine, writes_columnSupport engine sorted⟩)
    | routineSupport => exact .inr (.inr (writes_routineSupport sorted))

theorem Step.sorted (step : toolkit.Step before next) (sorted : Sorted (toolkit.results before)) :
    Sorted (toolkit.results next) := by
  obtain same | ⟨engine, writes⟩ | writes := step.cases sorted
  · rw [same]
    exact sorted
  · exact writes.sorted_of_columns sorted
  · exact writes.sorted_of_routines sorted

theorem Step.get?_eq_some (step : toolkit.Step before next)
    (sorted : Sorted (toolkit.results before)) (name : Text) (result : ProbeResult)
    (found : (toolkit.results before).get? name = some result) :
    (toolkit.results next).get? name = some result := by
  obtain same | ⟨engine, writes⟩ | writes := step.cases sorted
  · rw [same, found]
  · exact writes.get?_eq_some name result found
  · exact writes.get?_eq_some name result found

/-! ### What a run does to the results -/

theorem Run.sorted (run : toolkit.Run before next) (sorted : Sorted (toolkit.results before)) :
    Sorted (toolkit.results next) := by
  induction run with
  | refl => exact sorted
  | tail _ step inductionHypothesis => exact step.sorted inductionHypothesis

/-- What stands in a session stands in every later one. -/
theorem Run.get?_eq_some (run : toolkit.Run before next)
    (sorted : Sorted (toolkit.results before)) (name : Text) (result : ProbeResult)
    (found : (toolkit.results before).get? name = some result) :
    (toolkit.results next).get? name = some result := by
  induction run with
  | refl => exact found
  | tail former step inductionHypothesis =>
    exact step.get?_eq_some (Run.sorted former sorted) name result inductionHypothesis

end Steps

/-! ### Probing once -/

/-- What holds of the results of a toolkit in a session and in all that may follow it. -/
structure Settles (session : Session) : Prop where
  /-- Results are never changed or removed. -/
  stand : ∀ later, toolkit.Run session later → ∀ name result,
    (toolkit.results session).get? name = some result →
    (toolkit.results later).get? name = some result
  /-- What was found out of an engine is given again, also for a conversion, and nothing is asked
  for it. -/
  columns : ∀ engine support after,
    toolkit.inspector.columnSupport engine session = (.ok support, after) →
    ∀ later, toolkit.Run after later →
      toolkit.inspector.columnSupport engine later = (.ok support, later) ∧
      ∀ table column, toolkit.convertToStored table column engine later =
        (.ok (support.map (column.alterToStored table)), later)
  /-- What was found out of routines is given again, and nothing is asked for it. -/
  routines : ∀ support after,
    toolkit.inspector.routineSupport session = (.ok support, after) →
    ∀ later, toolkit.Run after later →
      toolkit.inspector.routineSupport later = (.ok support, later)
  /-- The failure of a server that creates no function is raised again, and nothing is asked for
  it. -/
  failure : ∀ failure after,
    toolkit.inspector.routineSupport session = (.error (.queryFailed failure), after) →
    ∀ later, toolkit.Run after later →
      toolkit.inspector.routineSupport later = (.error (.queryFailed failure), later)
  /-- A probe of an engine that ends in a fault stores nothing. -/
  columns_incident : ∀ engine fault after,
    toolkit.inspector.columnSupport engine session = (.error fault, after) →
    toolkit.results after = toolkit.results session ∧
      (IsEngine engine → (toolkit.results after).get? (columnsKey engine) = none)
  /-- An engine without a result is probed, whatever was tried before. -/
  columns_tried : ∀ engine, IsEngine engine →
    (toolkit.results session).get? (columnsKey engine) = none →
    ∃ statements, Asked toolkit.inspector.connection
      ({ sql := dropTable (toolkit.inspector.throwawayTable session) } :: statements) session
      (toolkit.inspector.columnSupport engine session).2
  /-- A probe of routines that ends in another fault stores nothing. -/
  routines_incident : ∀ fault after, fault.IsIncident →
    toolkit.inspector.routineSupport session = (.error fault, after) →
    toolkit.results after = toolkit.results session ∧
      (toolkit.results after).get? routinesKey = none
  /-- Routines without a result are probed, whatever was tried before. -/
  routines_tried : (toolkit.results session).get? routinesKey = none →
    ∃ statements, Asked toolkit.inspector.connection ({ sql := dropRoutine } :: statements) session
      (toolkit.inspector.routineSupport session).2
  /-- A call for an engine changes nothing for other engines. -/
  engines_apart : ∀ engine other, other ≠ engine →
    (toolkit.results (toolkit.inspector.columnSupport engine session).2).get? (columnsKey other) =
      (toolkit.results session).get? (columnsKey other)
  /-- A call for an engine changes nothing for routines. -/
  routines_apart : ∀ engine,
    (toolkit.results (toolkit.inspector.columnSupport engine session).2).get? routinesKey =
      (toolkit.results session).get? routinesKey
  /-- A call for routines changes nothing for engines. -/
  columns_apart : ∀ engine,
    (toolkit.results (toolkit.inspector.routineSupport session).2).get? (columnsKey engine) =
      (toolkit.results session).get? (columnsKey engine)

section Settling

variable {toolkit} {session after later : Session} (sorted : Sorted (toolkit.results session))

include sorted

theorem columnSupport_again {engine : Text} {support : Option ColumnSupport}
    (found : toolkit.inspector.columnSupport engine session = (.ok support, after))
    (run : toolkit.Run after later) :
    toolkit.inspector.columnSupport engine later = (.ok support, later) := by
  obtain ⟨_, _, valid, same, stands, writes⟩ | ⟨fault, _, same, _⟩ :=
    toolkit.inspector.columnSupport_ends session sorted engine
  · cases found.symm.trans same
    exact toolkit.inspector.columnSupport_cached engine later valid _
      (run.get?_eq_some (writes.sorted_of_columns sorted) _ _ stands)
  · cases found.symm.trans same

theorem routineSupport_again {outcome : Except Fault RoutineSupport}
    (found : toolkit.inspector.routineSupport session = (outcome, after))
    (settled : ∀ fault, outcome = .error fault → ¬ fault.IsIncident)
    (run : toolkit.Run after later) :
    toolkit.inspector.routineSupport later = (outcome, later) := by
  obtain ⟨result, _, about, same, stands, writes⟩ | ⟨fault, _, incident, same, _⟩ :=
    toolkit.inspector.routineSupport_ends session sorted
  · cases found.symm.trans same
    exact toolkit.inspector.routineSupport_cached later result about
      (run.get?_eq_some (writes.sorted_of_routines sorted) _ _ stands)
  · cases found.symm.trans same
    exact absurd incident (settled fault rfl)

theorem settles_of_sorted : toolkit.Settles session where
  stand _ run := run.get?_eq_some sorted
  columns engine support after found later run := by
    have again := columnSupport_again sorted found run
    refine ⟨again, fun table column => ?_⟩
    rw [convertToStored_eq, again]
  routines support after found later run := routineSupport_again sorted found nofun run
  failure failure after found later run := by
    refine routineSupport_again sorted found (fun fault same incident => ?_) run
    exact incident failure (Except.error.inj same).symm
  columns_incident engine fault after found := by
    obtain ⟨_, _, _, same, _⟩ | ⟨_, _, same, kept, missing⟩ :=
      toolkit.inspector.columnSupport_ends session sorted engine
    · cases found.symm.trans same
    · cases found.symm.trans same
      have results : toolkit.results after = toolkit.results session := congrFun kept _
      rw [results]
      exact ⟨rfl, missing⟩
  columns_tried _ valid missing :=
    toolkit.inspector.exists_asked_columnSupport session valid missing
  routines_incident fault after incident found := by
    obtain ⟨result, _, about, same, _⟩ | ⟨_, _, _, same, kept, missing⟩ :=
      toolkit.inspector.routineSupport_ends session sorted
    · exact absurd incident (not_isIncident_of_outcomeOf
        (congrArg Prod.fst (same.symm.trans found)))
    · cases found.symm.trans same
      have results : toolkit.results after = toolkit.results session := congrFun kept _
      rw [results]
      exact ⟨rfl, missing⟩
  routines_tried missing := toolkit.inspector.exists_asked_routineSupport session missing
  engines_apart engine other different :=
    (writes_columnSupport engine sorted).get?_of_ne _
      fun same => different (columnsKey_injective _ _ same)
  routines_apart engine :=
    (writes_columnSupport engine sorted).get?_of_ne _ (columnsKey_ne_routinesKey engine).symm
  columns_apart engine :=
    (writes_routineSupport sorted).get?_of_ne _ (columnsKey_ne_routinesKey engine)

end Settling

/-- A toolkit probes its server once, in every session of every run that starts where it was
opened. -/
theorem new_settles {settings : Settings} {server : Text} {start opened session : Session}
    {toolkit : Toolkit} (opens : new settings server start = (.ok toolkit, opened))
    (run : toolkit.Run opened session) : toolkit.Settles session := by
  have none : toolkit.results opened = {} := (new_startsMemory opens).1
  have empty : Sorted (toolkit.results opened) := by
    rw [none]
    exact ⟨nofun, nofun⟩
  exact settles_of_sorted (run.sorted empty)

/-- On a server that creates no function the failure is found out once. -/
theorem new_settles_creation_denied :
    let server : Server :=
      { respond := fun _ request => match request with
          | .openCursor => .ok {}
          | .execute statement =>
            if statement.sql = createRoutine then .error (.refused ⟨some "denied", []⟩)
            else .ok {} }
    let start : Session := { servers := fun _ => server, clock := [], random := 0 }
    let settings : Settings :=
      { quiet := .bool true, connection := .channel (.managed (.shared "main")) }
    ∃ toolkit opened, new settings "main" start = (.ok toolkit, opened) ∧
      toolkit.Run opened (toolkit.perform opened .routineSupport) ∧
      toolkit.Settles (toolkit.perform opened .routineSupport) ∧
      (toolkit.inspector.routineSupport opened).1 =
        .error (.queryFailed (creationFailure "denied")) := by
  intro server start settings
  refine ⟨_, _, rfl, .single (.operation _ .routineSupport), ?_, rfl⟩
  have opens : new settings "main" start = (.ok _, _) := rfl
  exact new_settles opens (.single (.operation _ .routineSupport))

end DumpRestore.Toolkit
