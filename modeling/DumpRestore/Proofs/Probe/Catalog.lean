/-
This file proves that the stored routines of a database are read all or not at all. The server is
asked for the status of its functions, for that of its procedures, and then for the definition of
each routine that a status row names. Either every statement has a result, and the routines are
those of the rows with their definitions, or reading stops at the first statement that is refused,
and the failure blames that statement.
-/

import DumpRestore.Probe.Catalog
import DumpRestore.Proofs.Probe.Inspector
import DumpRestore.Proofs.Session.Plan

namespace DumpRestore.Inspector

/-! ### Routines of status rows -/

/-- The rows of results in a row, each read as a mapping. -/
def rowsOf (results : List ResultSet) : List Row :=
  results.flatMap fun result => (result.rows.getD []).map Row.toMapping

/-- The kind of the routine that a status row is about; none where the row has no name or is about
something else. -/
def describedKind? (status : Row) : Option RoutineKind :=
  let kind := Text.upper ((status.get "Type").orElse (.text [])).toText
  if (status.get "Name").isTruthy = false then none
  else if kind = "FUNCTION".toList then some .function
  else if kind = "PROCEDURE".toList then some .procedure
  else none

/-- The status rows that are about routines, with the kinds of the routines. -/
def describedRows (statuses : List Row) : List (RoutineKind × Row) :=
  statuses.filterMap fun status => (describedKind? status).map (·, status)

/-- The routine of a status row whose definition was asked for. -/
def routineOf (described : RoutineKind × Row) (definition : ResultSet) : Routine where
  name := (described.2.get "Name").toText
  kind := described.1
  status := described.2
  definition := (rowsOf [definition]).head?.getD []

/-! ### The plan -/

/-- Asks for the status of the routines of a kind. -/
def statusQuery (database : Option Text) (kind : RoutineKind) : Planned where
  statement :=
    { sql := "SHOW " ++ kind.keyword ++ " STATUS WHERE Db = %s"
      parameters := some [(database.map Value.text).getD .null] }
  kind := "routine_status_error"

/-- Asks for the definition of the routine of a status row. -/
def definitionQuery (described : RoutineKind × Row) : Planned where
  statement :=
    { sql := "SHOW CREATE " ++ described.1.keyword ++ " " ++
        Identifier.backquote (described.2.get "Name").toText }
  kind := "routine_sql_error"

/-- What is asked in turn. The first two results tell for which routines definitions are asked. -/
def routinePlan (database : Option Text) (results : List ResultSet) : List Planned :=
  statusQuery database .function :: statusQuery database .procedure ::
    (describedRows (rowsOf (results.take 2))).map definitionQuery

/-- The routines that results describe. -/
def routinesOf (results : List ResultSet) : List Routine :=
  List.zipWith routineOf (describedRows (rowsOf (results.take 2))) (results.drop 2)

theorem ofKeyword?_eq (keyword : Text) :
    RoutineKind.ofKeyword? keyword =
      if keyword = "FUNCTION".toList then some .function
      else if keyword = "PROCEDURE".toList then some .procedure
      else none := by
  by_cases function : keyword = "FUNCTION".toList
  · rw [if_pos function, function]
    decide
  · by_cases procedure : keyword = "PROCEDURE".toList
    · rw [if_neg function, if_pos procedure, procedure]
      decide
    · rw [if_neg function, if_neg procedure]
      refine List.find?_eq_none.mpr fun kind _ same => ?_
      have equal := beq_iff_eq.mp same
      cases kind with
      | function => exact function equal.symm
      | procedure => exact procedure equal.symm

theorem describedKind?_eq (status : Row) :
    describedKind? status = if (status.get "Name").isTruthy then kindOf? status else none := by
  unfold describedKind? kindOf?
  rw [ofKeyword?_eq]
  cases (status.get "Name").isTruthy <;> rfl

theorem describedRows_singleton (status : Row) :
    describedRows [status] = ((describedKind? status).map (·, status)).toList := by
  rw [describedRows, List.filterMap_cons]
  cases describedKind? status <;> rfl

theorem describedRows_cons (status : Row) (statuses : List Row) :
    describedRows (status :: statuses) = describedRows [status] ++ describedRows statuses := by
  show describedRows ([status] ++ statuses) = _
  exact List.filterMap_append

/-! ### Following the plan -/

section Following

variable (inspector : Inspector) {server : Server}

/-- One statement follows the plan to ask it. -/
theorem follows_rowsOrFail (calm : server.IsCalm) (kind message sql : Text)
    (parameters : Option (List Value)) :
    Follows inspector.connection server (fun _ => [{ statement := { sql, parameters }, kind }])
      rowsOf (inspector.rowsOrFail kind message sql parameters) := by
  intro session serves
  subst serves
  have said := (inspector.connection.conversation_attempt { sql, parameters } session).toAsked
  have attempted := inspector.connection.run_attempt { sql, parameters } session
  have begun : inspector.rowsOrFail kind message sql parameters session =
      match inspector.connection.attempt { sql, parameters } session with
      | (.ok (some result), after) => (.ok ((result.rows.getD []).map Row.toMapping), after)
      | (.ok none, after) => (.error (.queryFailed
          (failureOf (after.standings inspector.connection.key) kind message)), after)
      | (.error fault, after) => (.error fault, after) := by
    unfold rowsOrFail Connection.rows
    rw [Action.run_bind, Action.run_bind]
    rcases inspector.connection.attempt { sql, parameters } session with ⟨_ | _ | _, _⟩ <;> rfl
  have answers : session.answers inspector.connection.server [{ sql, parameters }] =
      [((session.servers inspector.connection.server).ask
        (session.received inspector.connection.server) { sql, parameters }).1] := rfl
  cases answered : ((session.servers inspector.connection.server).ask
      (session.received inspector.connection.server) { sql, parameters }).1 with
  | ok result =>
    have sent := inspector.connection.statements_attempt_ok { sql, parameters } session result
      answered
    rw [answered] at attempted answers
    rw [attempted] at begun said sent
    refine ⟨[result], .inl ?_⟩
    rw [begun]
    refine ⟨{ said with answered := answers, sent }, ?_⟩
    rw [rowsOf, List.flatMap_singleton]
  | error failure =>
    cases failure with
    | crashed crash => exact absurd answered (calm.ask _ _ crash)
    | refused error =>
      have blamed := inspector.connection.standings_attempt_refused { sql, parameters } session
        error answered
      rw [answered] at attempted answers
      rw [attempted] at begun said blamed
      refine ⟨[], .inr ⟨[], { statement := { sql, parameters }, kind }, error, _, ?_,
        congrArg Prod.fst begun, ?_⟩⟩
      · rw [begun]
        exact { said with within := List.prefix_rfl, answered := answers }
      · unfold failureOf
        rw [blamed]
        exact ⟨rfl, rfl, rfl⟩

/-- What is asked about one status row, if anything. -/
theorem follows_describeRoutine (calm : server.IsCalm) (status : Row) :
    Follows inspector.connection server
      (fun _ => (describedRows [status]).map definitionQuery)
      (fun results => (List.zipWith routineOf (describedRows [status]) results).head?)
      (inspector.describeRoutine status) := by
  unfold describeRoutine
  dsimp only
  rw [describedRows_singleton, ← describedKind?_eq]
  cases describedKind? status with
  | none => exact (follows_report _ _ _).bind fun _ => follows_pure none
  | some kind =>
    refine ((inspector.follows_rowsOrFail calm _ _ _ none).map _).congr
      (fun _ => rfl) fun results length => ?_
    obtain ⟨definition, rfl⟩ := List.length_eq_one_iff.mp length
    rfl

/-- The status rows are gone through in order. -/
theorem follows_describeRoutines (calm : server.IsCalm) (statuses : List Row) :
    Follows inspector.connection server (fun _ => (describedRows statuses).map definitionQuery)
      (fun results => List.zipWith routineOf (describedRows statuses) results)
      (inspector.describeRoutines statuses) := by
  induction statuses with
  | nil => exact follows_pure []
  | cons status statuses inductionHypothesis =>
    refine ((inspector.follows_describeRoutine calm status).bind fun routine =>
      inductionHypothesis.map fun routines => routine.toList ++ routines).congr
        (fun results => ?_) fun results length => ?_
    · rw [describedRows_cons status statuses, List.map_append]
    · rw [describedRows_cons status statuses]
      rw [describedRows_singleton] at length ⊢
      generalize describedKind? status = kind? at length ⊢
      cases kind? with
      | none => rfl
      | some kind =>
        cases results with
        | nil => cases length
        | cons definition results => rfl

/-- The status of the routines of a kind in the current database is asked for. -/
theorem follows_routineStatus (calm : server.IsCalm) (kind : RoutineKind) :
    Follows inspector.connection server (fun _ => [statusQuery server.database kind]) rowsOf
      (inspector.routineStatus kind) := by
  intro session serves
  have begun : inspector.routineStatus kind session =
      inspector.rowsOrFail "routine_status_error"
        "An error occurred while attempting to retrieve routine status"
        ("SHOW " ++ kind.keyword ++ " STATUS WHERE Db = %s")
        (some [(server.database.map Value.text).getD .null]) session := by
    have current : inspector.connection.database session = (.ok server.database, session) := by
      rw [← serves]
      rfl
    unfold routineStatus
    rw [Action.run_bind_ok _ current]
    cases server.database <;> rfl
  rw [begun]
  exact inspector.follows_rowsOrFail calm _ _ _ _ session serves

/-- The functions come before the procedures, and both before the definitions. -/
theorem follows_readRoutines (calm : server.IsCalm) :
    Follows inspector.connection server (routinePlan server.database) routinesOf (do
      let functions ← inspector.routineStatus .function
      let procedures ← inspector.routineStatus .procedure
      inspector.describeRoutines (functions ++ procedures)) := by
  have both (results : List ResultSet) : rowsOf (results.take 1) ++
      rowsOf ((results.drop 1).take 1) = rowsOf (results.take 2) := by
    rw [rowsOf, rowsOf, rowsOf, ← List.flatMap_append, ← List.take_add]
  refine ((inspector.follows_routineStatus calm .function).bind fun functions =>
    (inspector.follows_routineStatus calm .procedure).bind fun procedures =>
      inspector.follows_describeRoutines calm (functions ++ procedures)).congr
        (fun results => ?_) fun results _ => ?_
  · exact congrArg (fun statuses => statusQuery server.database .function ::
      statusQuery server.database .procedure :: (describedRows statuses).map definitionQuery)
      (both results)
  · unfold routinesOf
    rw [← both results]
    exact congrArg (List.zipWith routineOf _) List.drop_drop

section Wrapping

variable {Result : Type} {plan : List ResultSet → List Planned}
  {value : List ResultSet → Result} {action : Action Result}
  (follows : Follows inspector.connection server plan value action)

include follows

/-- A failure that is reported stays what it is, and nothing is asked for the report. -/
theorem follows_reportingFailure :
    Follows inspector.connection server plan value (inspector.reportingFailure action) := by
  intro session serves
  obtain ⟨results, outcome⟩ := follows session serves
  refine ⟨results, ?_⟩
  unfold reportingFailure
  rw [Action.run_tryCatch]
  generalize action session = reached at outcome ⊢
  rcases reached with ⟨result, after⟩
  obtain ⟨completes, rfl⟩ | ⟨done, stopped, error, failure, stops, rfl, blames⟩ := outcome
  · exact .inl ⟨completes, rfl⟩
  · refine .inr ⟨done, stopped, error, failure, ?_, rfl, blames⟩
    exact { stops with }

/-- Suppression is no matter of the server. -/
theorem follows_suppressed :
    Follows inspector.connection server plan value (inspector.suppressed none action) := by
  intro session serves
  obtain ⟨results, outcome⟩ := follows (inspector.connection.withSuppressed true session) serves
  rw [run_suppressed_none]
  generalize action (inspector.connection.withSuppressed true session) = reached at outcome ⊢
  rcases reached with ⟨result, after⟩
  have whole {statements : List Statement} (asked : Asked inspector.connection statements
      (inspector.connection.withSuppressed true session) after) :
      Asked inspector.connection statements session
        (inspector.connection.withSuppressed (inspector.connection.isSuppressed session)
          after) := by
    have begins := inspector.connection.asked_withSuppressed true session
    have ends := inspector.connection.asked_withSuppressed
      (inspector.connection.isSuppressed session) after
    have around := (begins.trans asked).trans ends
    rwa [List.append_nil] at around
  obtain ⟨completes, given⟩ | ⟨done, stopped, error, failure, stops, raised, blames⟩ := outcome
  · exact ⟨results, .inl ⟨{ completes with toAsked := whole completes.toAsked }, given⟩⟩
  · exact ⟨results, .inr ⟨done, stopped, error, failure,
      { stops with toAsked := whole stops.toAsked }, raised, blames⟩⟩

end Wrapping

end Following

/-- Where there are as many definitions as rows, no row is without its routine. -/
theorem describedRows_of_routines (described : List (RoutineKind × Row))
    (definitions : List ResultSet) (all : definitions.length = described.length) :
    (List.zipWith routineOf described definitions).map
      (fun routine => (routine.kind, routine.status)) = described :=
  calc (List.zipWith routineOf described definitions).map
        (fun routine => (routine.kind, routine.status))
      = List.zipWith (fun row _ => row) described definitions := List.map_zipWith
    _ = (described.zip definitions).map Prod.fst := by rw [List.zip, List.map_zipWith]
    _ = described := List.map_fst_zip (Nat.le_of_eq all.symm)

/-- Reading the stored routines is all or nothing. On a server that never crashes, either every
statement of the plan is sent once and in order, and the routines are those of the status rows with
their definitions; or reading stops at the first refused statement, nothing is asked after it, and
the failure blames it. -/
theorem storedRoutines_all_or_nothing (inspector : Inspector) (session : Session)
    (calm : (session.servers inspector.connection.server).IsCalm) :
    let plan := routinePlan (session.servers inspector.connection.server).database
    let run := inspector.storedRoutines session
    ∃ results,
      (Completes inspector.connection (plan results) results session run.2 ∧
        run.1 = .ok (routinesOf results) ∧
        (routinesOf results).map (fun routine => (routine.kind, routine.status)) =
          describedRows (rowsOf (results.take 2))) ∨
      ∃ done stopped error failure,
        Stops inspector.connection (plan results) done stopped results error session run.2 ∧
          run.1 = .error (.queryFailed failure) ∧ failure.Blames stopped error := by
  intro plan run
  have follows := inspector.follows_suppressed
    (inspector.follows_reportingFailure (inspector.follows_readRoutines calm))
  obtain ⟨results, outcome⟩ := follows session rfl
  refine ⟨results, ?_⟩
  obtain ⟨completes, given⟩ | stops := outcome
  · have length := completes.length_results
    refine .inl ⟨completes, given, describedRows_of_routines _ _ ?_⟩
    rw [List.length_drop, length]
    simp [routinePlan]
  · exact .inr stops

/-- A function, a row without a name, and a procedure whose definition is denied. -/
theorem storedRoutines_denied :
    let reply (sql : Text) : Except Failure ResultSet :=
      if sql = "SHOW FUNCTION STATUS WHERE Db = %s".toList then
        .ok { rows := some [[("Name", .text "total"), ("Type", .text "function")]] }
      else if sql = "SHOW PROCEDURE STATUS WHERE Db = %s".toList then
        .ok { rows := some [[("Name", .text ""), ("Type", .text "PROCEDURE")],
          [("Name", .text "clean`up"), ("Type", .text "PROCEDURE")]] }
      else if sql = "SHOW CREATE FUNCTION `total`".toList then .ok { rows := some [[]] }
      else .error (.refused ⟨some "denied", []⟩)
    let server : Server :=
      { database := some "shop"
        respond := fun _ request => match request with
          | .openCursor => .ok {}
          | .execute statement => reply statement.sql }
    let session : Session := { servers := fun _ => server, clock := [], random := 0 }
    let inspector : Inspector :=
      { connection := .shared "main", cache := 0, tablePrefix := [], reporter := .component }
    let plan := routinePlan server.database
    let run := inspector.storedRoutines session
    server.IsCalm ∧ (∃ results,
      (Completes inspector.connection (plan results) results session run.2 ∧
        run.1 = .ok (routinesOf results) ∧
        (routinesOf results).map (fun routine => (routine.kind, routine.status)) =
          describedRows (rowsOf (results.take 2))) ∨
      ∃ done stopped error failure,
        Stops inspector.connection (plan results) done stopped results error session run.2 ∧
          run.1 = .error (.queryFailed failure) ∧ failure.Blames stopped error) ∧
      ∃ message, run.1 = .error (.queryFailed
        { kind := "routine_sql_error", message, lastError := some "denied",
          statement := some "SHOW CREATE PROCEDURE `clean``up`" }) := by
  intro reply server session inspector plan run
  have calm : server.IsCalm := by
    intro earlier request crash
    cases request with
    | openCursor => nofun
    | execute statement =>
      show reply statement.sql ≠ _
      unfold reply
      split
      · nofun
      · split
        · nofun
        · split <;> nofun
  refine ⟨calm, storedRoutines_all_or_nothing inspector session calm, ?_⟩
  exact ⟨_, rfl⟩

end DumpRestore.Inspector
