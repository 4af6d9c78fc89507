/-
This file follows what a toolkit knows of the version of its server, over any number of accesses to
the version and to the question whether the server is MariaDB. The server is assumed to answer the
query for its version in the same way each time, but in any way.

What is known changes at most once, when the server reports a version, and from then on the server
is not asked any more. The version is remembered before it is read for the log, so that an access
which ends in a fault because it cannot be read has nevertheless changed what is known, and later
accesses give the version. This is the only way in which accesses can differ.
-/

import DumpRestore.Proofs.Session.Conversation
import DumpRestore.Proofs.Toolkit.Opening

namespace DumpRestore

/-! ### What an attempt leaves as it is -/

/-- Servers stay what they are, and nothing more gets known of versions. -/
structure KnowsNoMore (before after : Session) : Prop where
  servers : after.servers = before.servers
  versions : after.versions = before.versions

namespace Connection

variable (connection : Connection) (session : Session)

theorem knowsNoMore_attempt (statement : Statement) :
    KnowsNoMore session (connection.attempt statement session).2 where
  servers := (connection.conversation_attempt statement session).servers
  versions := by
    obtain ⟨sent, _, reached⟩ :=
      Session.asked_eq connection.server statement (connection.given statement session)
    rw [run_attempt, reached]
    dsimp only
    split <;> rfl

/-- The rows of a query are decided by the answer of the server. -/
theorem run_rows (sql : Text) (parameters : Option (List Value)) :
    connection.rows sql parameters session =
      (match ((session.servers connection.server).ask
          (session.received connection.server) { sql, parameters }).1 with
        | .ok result => .ok (some ((result.rows.getD []).map Row.toMapping))
        | .error (.refused _) => .ok none
        | .error (.crashed crash) => .error (.crashed crash),
        (connection.attempt { sql, parameters } session).2) := by
  unfold rows
  rw [Action.run_map, run_attempt]
  dsimp only
  rcases ((session.servers connection.server).ask (session.received connection.server)
    { sql, parameters }).1 with (error | crash) | result <;> rfl

end Connection

namespace Toolkit

variable (toolkit : Toolkit)

/-! ### Looking up the version -/

/-- The statement that asks a server for its version. -/
def versionQuery : Statement := { sql := "SHOW VARIABLES LIKE 'version'" }

/-- What an answer says of the version: the value in its first row, none where there is no row or
the query is refused, and a fault where it crashes. -/
def told : Except Failure ResultSet → Except Fault (Option Text)
  | .ok result =>
    .ok (((result.rows.getD []).map Row.toMapping).head?.map fun row => (row.get "Value").toText)
  | .error (.refused _) => .ok none
  | .error (.crashed crash) => .error (.crashed crash)

/-- What comes of looking up what was told: a version that cannot be read is a fault. -/
def checked : Except Fault (Option Text) → Except Fault (Option Text)
  | .ok (some reported) => match Version.ofServer reported with
    | .ok _ => .ok (some reported)
    | .error flaw => .error (.invalidVersion flaw)
  | outcome => outcome

/-- What gets known of a version by looking it up, whether it can be read or not. -/
def learned : Except Fault (Option Text) → VersionKnowledge
  | .ok (some reported) => { reported := some reported, isMariaDb := Version.isMariaDb reported }
  | _ => {}

/-- The server of a toolkit answers the query for its version in the same way each time. -/
def AnswersAlike (session : Session) (answer : Except Failure ResultSet) : Prop :=
  ∀ earlier, ((session.servers toolkit.connection.server).ask earlier versionQuery).1 = answer

section Lookup

variable {toolkit} {session : Session} {answer : Except Failure ResultSet}

theorem AnswersAlike.later {after : Session} (alike : toolkit.AnswersAlike session answer)
    (servers : after.servers = session.servers) : toolkit.AnswersAlike after answer := by
  unfold AnswersAlike
  rw [servers]
  exact alike

theorem AnswersAlike.run_askVersion (alike : toolkit.AnswersAlike session answer) :
    ∃ after, toolkit.askVersion session = (told answer, after) ∧ KnowsNoMore session after := by
  unfold askVersion
  rw [Action.run_bind, Connection.run_rows]
  have kept := toolkit.connection.knowsNoMore_attempt session versionQuery
  have same := alike (session.received toolkit.connection.server)
  unfold versionQuery at kept same
  rw [same]
  generalize (toolkit.connection.attempt _ session).2 = reached at kept ⊢
  rcases answer with (error | crash) | result
  · exact ⟨_, rfl, kept.servers, kept.versions⟩
  · exact ⟨_, rfl, kept⟩
  · dsimp only [told]
    cases (result.rows.getD []).map Row.toMapping with
    | nil => exact ⟨_, rfl, kept.servers, kept.versions⟩
    | cons row rows => exact ⟨_, rfl, kept⟩

/-- A version that is known is given, and nothing happens. -/
theorem run_version_known {reported : Text}
    (known : session.versions toolkit.key = learned (.ok (some reported))) :
    toolkit.version session = (.ok (some reported), session) := by
  unfold version
  rw [Action.run_bind_ok _ (Action.run_get session), known]
  rfl

/-- Where nothing is known, what is told is looked up, and remembered in any case. -/
theorem AnswersAlike.run_version (alike : toolkit.AnswersAlike session answer)
    (unknown : session.versions toolkit.key = {}) :
    ∃ after, toolkit.version session = (checked (told answer), after) ∧
      after.servers = session.servers ∧
      after.versions = update session.versions toolkit.key (learned (told answer)) := by
  obtain ⟨asked, asks, kept⟩ := alike.run_askVersion
  unfold version
  rw [Action.run_bind_ok _ (Action.run_get session), unknown]
  dsimp only
  rw [Action.run_bind, asks]
  have same : asked.versions = update session.versions toolkit.key {} := by
    rw [kept.versions, ← unknown, update_eq_self]
  rcases told answer with fault | _ | reported
  · exact ⟨asked, rfl, kept.servers, same⟩
  · exact ⟨asked, rfl, kept.servers, same⟩
  · -- The version is remembered before it is read: both cases leave the same knowledge behind.
    dsimp only [checked]
    rw [← kept.versions]
    cases Version.ofServer reported <;> exact ⟨_, rfl, kept.servers, rfl⟩

end Lookup

/-! ### Accesses -/

/-- The two ways in which a toolkit is asked about the version of its server. -/
inductive Access where
  | version
  | isMariaDb

/-- What an access gives. -/
inductive Reading where
  | version (reported : Option Text)
  | isMariaDb (answer : Bool)

/-- What an access gives of a version. -/
def Access.reading : Access → Option Text → Reading
  | .version, reported => .version reported
  | .isMariaDb, reported => .isMariaDb (reported.any Version.isMariaDb)

/-- An access to the version. -/
def access : Access → Action Reading
  | .version => do return .version (← toolkit.version)
  | .isMariaDb => do return .isMariaDb (← toolkit.isMariaDb)

theorem access_version :
    toolkit.access .version = (do return .version (← toolkit.version)) :=
  rfl

theorem access_isMariaDb :
    toolkit.access .isMariaDb = (do return .isMariaDb (← toolkit.isMariaDb)) :=
  rfl

/-- The session after accesses one after the other, whatever comes of them. -/
def afterAccesses (session : Session) (accesses : List Access) : Session :=
  accesses.foldl (fun session access => (toolkit.access access session).2) session

/-- What comes of accesses one after the other. -/
def readings (session : Session) : List Access → List (Except Fault Reading)
  | [] => []
  | access :: accesses =>
    (toolkit.access access session).1 :: readings (toolkit.access access session).2 accesses

section Accesses

variable {toolkit} {session : Session} {answer : Except Failure ResultSet}

theorem AnswersAlike.run_access (alike : toolkit.AnswersAlike session answer)
    (unknown : session.versions toolkit.key = {}) (access : Access) :
    ∃ after, toolkit.access access session = ((checked (told answer)).map access.reading, after) ∧
      after.servers = session.servers ∧
      after.versions = update session.versions toolkit.key (learned (told answer)) := by
  obtain ⟨after, run, servers, versions⟩ := alike.run_version unknown
  refine ⟨after, ?_, servers, versions⟩
  cases access with
  | version =>
    rw [access_version, Action.run_map, run]
    rfl
  | isMariaDb =>
    rw [access_isMariaDb, Action.run_map]
    unfold isMariaDb
    rw [Action.run_bind, run]
    have knows : after.versions toolkit.key = learned (told answer) := by
      rw [versions, update_self]
    rcases outcome : told answer with fault | _ | reported
    · rfl
    · rfl
    · dsimp only [checked]
      cases Version.ofServer reported with
      | error flaw => rfl
      | ok number =>
        dsimp only
        rw [Action.run_bind_ok _ (Action.run_get after), knows, outcome]
        rfl

/-- All accesses give what the server tells: it is known, or nothing is known and what is told can
be read. -/
def Tells (toolkit : Toolkit) (session : Session) (answer : Except Failure ResultSet) : Prop :=
  session.versions toolkit.key = learned (told answer) ∨
    session.versions toolkit.key = {} ∧ checked (told answer) = told answer

/-- Where no version is told, nothing is learned, and there is nothing to read. -/
theorem exists_reported_or (outcome : Except Fault (Option Text)) :
    (∃ reported, outcome = .ok (some reported)) ∨
      learned outcome = {} ∧ checked outcome = outcome := by
  rcases outcome with fault | _ | reported
  · exact .inr ⟨rfl, rfl⟩
  · exact .inr ⟨rfl, rfl⟩
  · exact .inl ⟨reported, rfl⟩

theorem AnswersAlike.run_access_tells (alike : toolkit.AnswersAlike session answer)
    (tells : toolkit.Tells session answer) (access : Access) :
    ∃ after, toolkit.access access session = ((told answer).map access.reading, after) ∧
      after.servers = session.servers ∧
      after.versions toolkit.key = learned (told answer) := by
  have told_unknown (unknown : session.versions toolkit.key = {})
      (same : checked (told answer) = told answer) :
      ∃ after, toolkit.access access session = ((told answer).map access.reading, after) ∧
        after.servers = session.servers ∧
        after.versions toolkit.key = learned (told answer) := by
    obtain ⟨after, run, servers, versions⟩ := alike.run_access unknown access
    rw [same] at run
    exact ⟨after, run, servers, by rw [versions, update_self]⟩
  obtain knows | ⟨unknown, same⟩ := tells
  · obtain ⟨reported, outcome⟩ | ⟨nothing, same⟩ := exists_reported_or (told answer)
    · refine ⟨session, ?_, rfl, knows⟩
      rw [outcome] at knows ⊢
      have run := run_version_known knows
      cases access with
      | version =>
        rw [access_version, Action.run_map, run]
        rfl
      | isMariaDb =>
        rw [access_isMariaDb, Action.run_map]
        unfold isMariaDb
        rw [Action.run_bind, run]
        dsimp only
        rw [Action.run_bind_ok _ (Action.run_get session), knows]
        rfl
    · exact told_unknown (knows.trans nothing) same
  · exact told_unknown unknown same

/-- Accesses one after the other give what the server tells, and so do all that follow. -/
theorem AnswersAlike.readings_tells (alike : toolkit.AnswersAlike session answer)
    (tells : toolkit.Tells session answer) (accesses : List Access) :
    toolkit.readings session accesses =
        accesses.map (fun access => (told answer).map access.reading) ∧
      (toolkit.afterAccesses session accesses).servers = session.servers ∧
      toolkit.Tells (toolkit.afterAccesses session accesses) answer := by
  induction accesses generalizing session with
  | nil => exact ⟨rfl, rfl, tells⟩
  | cons access accesses inductionHypothesis =>
    obtain ⟨after, run, servers, knows⟩ := alike.run_access_tells tells access
    obtain ⟨later, same, further⟩ := inductionHypothesis (alike.later servers) (.inl knows)
    unfold readings afterAccesses
    rw [List.foldl_cons, run]
    refine ⟨?_, same.trans servers, further⟩
    rw [later]
    rfl

/-- The first access gives what comes of looking up the version, all others what the server
tells. -/
theorem AnswersAlike.readings_unknown (alike : toolkit.AnswersAlike session answer)
    (unknown : session.versions toolkit.key = {}) (first : Access) (accesses : List Access) :
    toolkit.readings session (first :: accesses) =
      (checked (told answer)).map first.reading ::
        accesses.map fun access => (told answer).map access.reading := by
  obtain ⟨after, run, servers, versions⟩ := alike.run_access unknown first
  have knows : after.versions toolkit.key = learned (told answer) := by
    rw [versions, update_self]
  rw [readings, run, ((alike.later servers).readings_tells (.inl knows) accesses).1]

end Accesses

/-! ### Steady accesses -/

/-- Accesses to the version agree, or end in one fault that changes nothing. -/
structure Steady (session : Session) : Prop where
  /-- An access that ends in a fault leaves what is known of the version as it was. -/
  unchanged : ∀ earlier access fault,
    (toolkit.access access (toolkit.afterAccesses session earlier)).1 = .error fault →
    (toolkit.access access (toolkit.afterAccesses session earlier)).2.versions toolkit.key =
      (toolkit.afterAccesses session earlier).versions toolkit.key
  /-- Every access after it ends in the same fault. -/
  raisedAgain : ∀ earlier access fault,
    (toolkit.access access (toolkit.afterAccesses session earlier)).1 = .error fault →
    ∀ later, ∀ reading ∈
      toolkit.readings (toolkit.access access (toolkit.afterAccesses session earlier)).2 later,
      reading = .error fault
  /-- Where no access ends in a fault, all of them are about one version. -/
  agreed : ∀ accesses, (∀ reading ∈ toolkit.readings session accesses, reading.isOk) →
    ∃ reported, toolkit.readings session accesses =
      accesses.map fun access => .ok (access.reading reported)

section Steadiness

variable {toolkit} {session : Session} {answer : Except Failure ResultSet}

/-- An access that ends in a fault ends in one that the server tells. -/
theorem AnswersAlike.told_of_raises (alike : toolkit.AnswersAlike session answer)
    (tells : toolkit.Tells session answer) {earlier : List Access} {access : Access} {fault : Fault}
    (raises : (toolkit.access access (toolkit.afterAccesses session earlier)).1 = .error fault) :
    told answer = .error fault ∧
      (toolkit.access access (toolkit.afterAccesses session earlier)).2.servers =
        session.servers ∧
      (toolkit.access access (toolkit.afterAccesses session earlier)).2.versions toolkit.key =
        learned (told answer) := by
  obtain ⟨_, servers, further⟩ := alike.readings_tells tells earlier
  obtain ⟨after, run, same, knows⟩ := (alike.later servers).run_access_tells further access
  rw [run] at raises ⊢
  refine ⟨?_, same.trans servers, knows⟩
  cases outcome : told answer with
  | error other =>
    rw [outcome] at raises
    cases raises
    rfl
  | ok reported? =>
    rw [outcome] at raises
    cases raises

/-- Where all accesses give what the server tells, they are steady. -/
theorem AnswersAlike.steady (alike : toolkit.AnswersAlike session answer)
    (tells : toolkit.Tells session answer) : toolkit.Steady session := by
  constructor
  case unchanged =>
    intro earlier access fault raises
    obtain ⟨outcome, _, knows⟩ := alike.told_of_raises tells raises
    rw [knows]
    obtain same | ⟨unknown, _⟩ := (alike.readings_tells tells earlier).2.2
    · exact same.symm
    · rw [unknown, outcome]
      rfl
  case raisedAgain =>
    intro earlier access fault raises later reading among
    obtain ⟨outcome, servers, knows⟩ := alike.told_of_raises tells raises
    rw [((alike.later servers).readings_tells (.inl knows) later).1, outcome] at among
    obtain ⟨_, _, same⟩ := List.mem_map.mp among
    exact same.symm
  case agreed =>
    intro accesses fine
    rw [(alike.readings_tells tells accesses).1] at fine ⊢
    cases accesses with
    | nil => exact ⟨none, rfl⟩
    | cons first accesses =>
      have ok := fine _ (List.mem_cons_self ..)
      cases outcome : told answer with
      | error fault =>
        rw [outcome] at ok
        cases ok
      | ok reported? => exact ⟨reported?, rfl⟩

/-- Where nothing is known yet, accesses are steady exactly if a version that the server reports can
be read. -/
theorem AnswersAlike.steady_iff (alike : toolkit.AnswersAlike session answer)
    (unknown : session.versions toolkit.key = {}) :
    toolkit.Steady session ↔ ∀ reported, told answer = .ok (some reported) →
      ∃ number, Version.ofServer reported = .ok number := by
  constructor
  · intro steady reported outcome
    obtain ⟨after, run, _, versions⟩ := alike.run_access unknown .version
    rw [outcome] at run versions
    cases reading : Version.ofServer reported with
    | ok number => exact ⟨number, rfl⟩
    | error flaw =>
      have same := steady.unchanged [] .version (.invalidVersion flaw)
      unfold afterAccesses at same
      rw [List.foldl_nil, run, checked, reading, versions, update_self, unknown] at same
      cases same rfl
  · intro readable
    obtain ⟨reported, outcome⟩ | ⟨_, same⟩ := exists_reported_or (told answer)
    · obtain ⟨number, reading⟩ := readable reported outcome
      refine alike.steady (.inr ⟨unknown, ?_⟩)
      rw [outcome, checked, reading]
    · exact alike.steady (.inr ⟨unknown, same⟩)

end Steadiness

/-! ### New toolkits -/

/-- What comes of accesses to the version with a new toolkit, and when they are steady: not where
the server reports a version that cannot be read. The first access then ends in a fault, and all
others give the version. -/
theorem new_steady_iff {settings : Settings} {server : Text} {start opened : Session}
    {toolkit : Toolkit} {answer : Except Failure ResultSet}
    (opens : new settings server start = (.ok toolkit, opened))
    (alike : toolkit.AnswersAlike opened answer) :
    (∀ first accesses, toolkit.readings opened (first :: accesses) =
      (checked (told answer)).map first.reading ::
        accesses.map fun access => (told answer).map access.reading) ∧
    (toolkit.Steady opened ↔ ∀ reported, told answer = .ok (some reported) →
      ∃ number, Version.ofServer reported = .ok number) :=
  have unknown := (new_startsMemory opens).2
  ⟨alike.readings_unknown unknown, alike.steady_iff unknown⟩

/-- Accesses are steady on a server whose version can be read. -/
theorem new_steady_mariaDb :
    let reported : Text := "10.6.12-MariaDB"
    let answer : Except Failure ResultSet := .ok { rows := some [[("Value", .text reported)]] }
    let server : Server :=
      { respond := fun _ request => match request with
          | .openCursor => .ok {}
          | .execute _ => answer }
    let start : Session := { servers := fun _ => server, clock := [], random := 0 }
    let settings : Settings :=
      { quiet := .bool true, connection := .channel (.managed (.shared "main")) }
    ∃ toolkit opened, new settings "main" start = (.ok toolkit, opened) ∧
      toolkit.AnswersAlike opened answer ∧
      toolkit.readings opened [.isMariaDb, .version] =
        [.ok (.isMariaDb true), .ok (.version (some reported))] ∧
      toolkit.Steady opened := by
  intro reported answer server start settings
  have opens : new settings "main" start = (.ok _, _) := rfl
  obtain ⟨given, steady⟩ :=
    new_steady_iff opens (show AnswersAlike _ _ answer from fun _ => rfl)
  refine ⟨_, _, opens, fun _ => rfl, (given _ _).trans rfl, ?_⟩
  refine steady.mpr fun other outcome => ?_
  cases outcome
  exact ⟨_, rfl⟩

/-- Accesses are not steady on a server whose version cannot be read: one fails, and the next one
gives the version. -/
theorem new_unsteady_malformed :
    let reported : Text := "8.0.x"
    let answer : Except Failure ResultSet := .ok { rows := some [[("Value", .text reported)]] }
    let server : Server :=
      { respond := fun _ request => match request with
          | .openCursor => .ok {}
          | .execute _ => answer }
    let start : Session := { servers := fun _ => server, clock := [], random := 0 }
    let settings : Settings :=
      { quiet := .bool true, connection := .channel (.managed (.shared "main")) }
    ∃ toolkit opened, new settings "main" start = (.ok toolkit, opened) ∧
      toolkit.AnswersAlike opened answer ∧
      toolkit.readings opened [.version, .version] =
        [.error (.invalidVersion (.malformed reported)), .ok (.version (some reported))] ∧
      ¬ toolkit.Steady opened := by
  intro reported answer server start settings
  refine ⟨_, _, rfl, fun _ => rfl, rfl, fun steady => ?_⟩
  have again := steady.raisedAgain [] .version (.invalidVersion (.malformed reported)) rfl
    [.version] (.ok (.version (some reported))) (List.mem_singleton.mpr rfl)
  cases again

end Toolkit

end DumpRestore
