/-
This file says what opening a toolkit does to a session. The log is opened first, and this never
fails. From there on keys are handed out, a login may be remembered, records may be reported and the
memory of the toolkit is started: a preorder that all of these keep holds between the session with
the open log and the session after, whether there is a toolkit in the end or a fault. A toolkit that
has been opened remembers nothing yet.
-/

import DumpRestore.Proofs.Session.Actions
import DumpRestore.Toolkit.Basic

namespace DumpRestore.Toolkit

variable (settings : Settings) (server : Text) (session : Session)

/-! ### The log -/

/-- A log that is opened once more: on one more screen unless the toolkit is quiet, and in a file
where one is named. -/
def openedLog (journal : Journal) : Journal :=
  let shown := if settings.quiet.isTruthy then journal else journal.openScreen
  match Settings.given? settings.logFile with
  | some path => shown.openFile path
  | none => shown

/-- The session in which the log of a toolkit has been opened. -/
def logged : Session :=
  { session with journal := openedLog settings session.journal }

theorem run_openLog : openLog settings session = (.ok ⟨⟩, logged settings session) := by
  unfold openLog logged openedLog
  cases settings.quiet.isTruthy <;> cases Settings.given? settings.logFile <;> rfl

/-! ### Connections and keys -/

/-- A relation that everything keeps which happens once the log is open: handing out a key,
remembering a login, reporting, and starting the memory of a toolkit. -/
structure AllowsOpening (relation : Session → Session → Prop) : Prop where
  freshKey : Action.freshKey.Keeps relation
  login : ∀ login : Login,
    (modify fun session => { session with logins := session.logins ++ [login] } :
      Action PUnit).Keeps relation
  report : ∀ level message, (Action.report .toolkit level message).Keeps relation
  startMemory : ∀ key, (startMemory key).Keeps relation

namespace AllowsOpening

variable {relation : Session → Session → Prop} [IsPreorder Session relation]
  (allows : AllowsOpening relation)

include allows

omit [IsPreorder Session relation] in
theorem ownConnection : (ownConnection server).Keeps relation :=
  allows.freshKey.map _

theorem connect : (connect settings server).Keeps relation := by
  have lifted {Result : Type} (result : Except Fault Result) :
      (connect.liftExcept result).Keeps relation := by
    cases result with
    | ok result => exact Action.keeps_pure result
    | error fault => exact Action.keeps_throw fault
  refine (lifted settings.login).bind fun login => (allows.login login).bind fun _ =>
    Action.keeps_get.bind fun session => ?_
  dsimp only
  split
  · exact (allows.report _ _).bind fun _ => Action.keeps_throw _
  · exact Action.keeps_throw _
  · split
    · exact allows.ownConnection server
    · exact Action.keeps_throw _

theorem chooseConnection : (chooseConnection settings server).Keeps relation := by
  unfold Toolkit.chooseConnection
  split
  · exact allows.connect settings server
  · exact Action.keeps_pure _
  · split
    · exact allows.ownConnection _
    · exact Action.keeps_throw _
  · exact Action.keeps_throw _

/-- Once the log is open, the relation is kept, also where no toolkit comes of it. -/
theorem new : relation (logged settings session) (new settings server session).2 := by
  unfold Toolkit.new
  rw [Action.run_bind_ok _ (run_openLog settings session)]
  refine ((allows.chooseConnection settings server).bind fun connection =>
    allows.freshKey.bind fun key => (allows.startMemory key).bind fun _ => ?_)
    (logged settings session)
  split
  · exact (allows.report _ _).bind fun _ => Action.keeps_pure _
  · exact Action.keeps_pure _

end AllowsOpening

/-- A new toolkit has no results of probes, and knows nothing of the version of its server. -/
theorem new_startsMemory {settings : Settings} {server : Text} {start opened : Session}
    {toolkit : Toolkit} (opens : Toolkit.new settings server start = (.ok toolkit, opened)) :
    opened.caches toolkit.inspector.cache = {} ∧ opened.versions toolkit.key = {} := by
  unfold Toolkit.new at opens
  rw [Action.run_bind_ok _ (run_openLog settings start)] at opens
  obtain ⟨connection, connected, _, opens⟩ := Action.exists_of_run_bind opens
  obtain ⟨key, numbered, numbers, opens⟩ := Action.exists_of_run_bind opens
  obtain ⟨_, started, starts, opens⟩ := Action.exists_of_run_bind opens
  cases numbers
  cases starts
  generalize TableOrder.complaint? settings.coreTables = complaint? at opens
  cases complaint? <;> cases opens <;> exact ⟨update_self _ _ _, update_self _ _ _⟩

end DumpRestore.Toolkit
