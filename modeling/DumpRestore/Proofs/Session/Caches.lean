/-
This file proves that caches belong to the probes. Connections, managed or direct, the part that
changes SQL modes, the readers of the catalog and what a toolkit asks about its server leave every
cache as it is, whatever servers answer and whether they come to an end or not.
-/

import DumpRestore.Proofs.Session.Conversation
import DumpRestore.Toolkit.Basic

namespace DumpRestore

/-- The caches are the same in two sessions. -/
def SameCaches (before after : Session) : Prop :=
  after.caches = before.caches

instance : IsPreorder Session SameCaches where
  refl _ := rfl
  trans _ _ _ former latter := latter.trans former

theorem Conversation.sameCaches {connection : Connection} {statements : List Statement}
    {Result : Type} {action : Action Result}
    (keeps : action.Keeps (Conversation connection statements)) : action.Keeps SameCaches :=
  fun session => (keeps session).caches

theorem Action.keeps_report (reporter : Reporter) (level : Level) (message : Text) :
    (Action.report reporter level message).Keeps SameCaches :=
  fun _ => rfl

theorem Action.keeps_send (server : Text) (request : Request) :
    (Action.send server request).Keeps SameCaches := by
  intro session
  rw [run_send]
  rfl

theorem Action.keeps_execute (server : Text) (statement : Statement) :
    (Action.execute server statement).Keeps SameCaches :=
  (keeps_send server .openCursor).bind fun _ => keeps_send server (.execute statement)

/-! ### Managed connections -/

namespace Connection

variable (connection : Connection)

theorem keeps_suppress (value : Bool) : (connection.suppress value).Keeps SameCaches :=
  fun _ => rfl

theorem keeps_query (sql : Text) (parameters : Option (List Value)) :
    (connection.query sql parameters).Keeps SameCaches :=
  Conversation.sameCaches (connection.meets_query sql parameters).keeps

theorem keeps_rows (sql : Text) (parameters : Option (List Value)) :
    (connection.rows sql parameters).Keeps SameCaches :=
  Conversation.sameCaches (connection.meets_rows sql parameters).keeps

theorem keeps_standing : connection.standing.Keeps SameCaches :=
  connection.meets_standing.keeps

theorem keeps_readVariable (name : Text) : (connection.readVariable name).Keeps SameCaches := by
  unfold readVariable
  split
  · refine (connection.keeps_rows _ _).bind fun rows => ?_
    split
    · exact Action.keeps_pure _
    · exact Action.keeps_pure _
    · exact Action.keeps_decode _
  · exact (Action.keeps_report _ _ _).bind fun _ => Action.keeps_pure _

theorem keeps_writeVariable (name : Text) (value : Value) :
    (connection.writeVariable name value).Keeps SameCaches := by
  unfold writeVariable
  split
  · exact (connection.keeps_query _ _).map _
  · exact (Action.keeps_report _ _ _).bind fun _ => Action.keeps_pure _

end Connection

/-! ### Direct connections -/

namespace DirectConnection

variable (connection : DirectConnection)

theorem keeps_firstValue (server sql : Text) : (firstValue server sql).Keeps SameCaches := by
  refine (Action.keeps_execute server { sql }).bind fun result => ?_
  split <;> exact Action.keeps_pure _

theorem keeps_readVariable (name : Text) : (connection.readVariable name).Keeps SameCaches := by
  unfold readVariable
  split
  · exact Action.keeps_pure _
  · refine (keeps_firstValue _ _).catchRefusal.bind fun answer => ?_
    split
    · exact Action.keeps_decode _
    · exact (Action.keeps_report _ _ _).bind fun _ => Action.keeps_pure _

theorem keeps_writeVariable (name : Text) (value : Value) :
    (connection.writeVariable name value).Keeps SameCaches := by
  unfold writeVariable
  split
  · exact Action.keeps_pure _
  · refine (Action.keeps_send _ _).bind fun _ => ?_
    refine (Action.keeps_send _ _).catchRefusal.bind fun answer => ?_
    split
    · exact Action.keeps_pure _
    · exact (Action.keeps_report _ _ _).bind fun _ => Action.keeps_pure _

end DirectConnection

/-! ### SQL modes -/

namespace ModeManager

variable (manager : ModeManager)

theorem keeps_unsupported (typeName : Text) :
    (resolve.unsupported manager typeName).Keeps SameCaches :=
  (Action.keeps_report _ _ _).bind fun _ => Action.keeps_pure _

theorem keeps_resolve (subject : Subject) : (manager.resolve subject).Keeps SameCaches := by
  unfold resolve
  split
  · exact Action.keeps_pure _
  · exact Action.keeps_pure _
  · split
    · exact Action.keeps_pure _
    · split
      · exact manager.keeps_unsupported _
      · exact Action.keeps_pure _
  · exact manager.keeps_unsupported _

theorem keeps_configure (add remove : List Text) (subject : Subject) :
    (manager.configure add remove subject).Keeps SameCaches := by
  refine (manager.keeps_resolve subject).bind fun channel? => ?_
  have reads (channel : Channel) (name : Text) : (channel.readVariable name).Keeps SameCaches := by
    cases channel with
    | managed connection => exact connection.keeps_readVariable name
    | direct connection => exact connection.keeps_readVariable name
  have writes (channel : Channel) (name : Text) (value : Value) :
      (channel.writeVariable name value).Keeps SameCaches := by
    cases channel with
    | managed connection => exact connection.keeps_writeVariable name value
    | direct connection => exact connection.keeps_writeVariable name value
  split
  · exact Action.keeps_pure _
  · refine (reads _ _).bind fun current => ?_
    split
    · exact (Action.keeps_report _ _ _).bind fun _ => (writes _ _ _).map some
    · exact (Action.keeps_report _ _ _).bind fun _ => Action.keeps_pure _

end ModeManager

/-! ### The catalog -/

namespace Inspector

variable (inspector : Inspector)

theorem keeps_rowsOrFail (kind message sql : Text) (parameters : Option (List Value)) :
    (inspector.rowsOrFail kind message sql parameters).Keeps SameCaches := by
  refine (inspector.connection.keeps_rows sql parameters).bind fun rows => ?_
  split
  · exact Action.keeps_pure _
  · exact inspector.connection.keeps_standing.bind fun _ => Action.keeps_throw _

theorem keeps_describeRoutine (status : Row) :
    (inspector.describeRoutine status).Keeps SameCaches := by
  unfold describeRoutine
  dsimp only
  split
  · exact (Action.keeps_report _ _ _).bind fun _ => Action.keeps_pure _
  · exact (inspector.keeps_rowsOrFail _ _ _ _).bind fun _ => Action.keeps_pure _

theorem keeps_describeRoutines (statuses : List Row) :
    (inspector.describeRoutines statuses).Keeps SameCaches := by
  induction statuses with
  | nil => exact Action.keeps_pure _
  | cons status statuses inductionHypothesis =>
    exact (inspector.keeps_describeRoutine status).bind fun _ => inductionHypothesis.map _

theorem keeps_routineStatus (kind : RoutineKind) :
    (inspector.routineStatus kind).Keeps SameCaches := by
  refine (Action.keeps_get.bind fun _ => Action.keeps_pure _ :
    inspector.connection.database.Keeps SameCaches).bind fun database => ?_
  exact inspector.keeps_rowsOrFail _ _ _ _

theorem keeps_storedRoutines : inspector.storedRoutines.Keeps SameCaches := by
  have reads := (inspector.keeps_routineStatus .function).bind fun functions =>
    (inspector.keeps_routineStatus .procedure).bind fun procedures =>
      inspector.keeps_describeRoutines (functions ++ procedures)
  refine (inspector.connection.keeps_suppress true).bind fun before => ?_
  refine (reads.tryCatch fun fault => ?_).ensuring ?_
  · split
    · exact (Action.keeps_report _ _ _).bind fun _ => Action.keeps_throw _
    · exact Action.keeps_throw _
  · exact (Action.keeps_pure ()).bind fun _ =>
      (inspector.connection.keeps_suppress before).bind fun _ => Action.keeps_pure ()

theorem keeps_hasCompositePrimaryKey (table : Text) (connection : Option Connection) :
    (inspector.hasCompositePrimaryKey table connection).Keeps SameCaches :=
  ((connection.getD inspector.connection).keeps_rows _ _).map _

end Inspector

/-! ### Toolkits -/

namespace Toolkit

variable (toolkit : Toolkit)

theorem keeps_askVersion : toolkit.askVersion.Keeps SameCaches := by
  refine (toolkit.connection.keeps_rows _ _).bind fun rows => ?_
  split
  · exact Action.keeps_pure _
  · exact toolkit.connection.keeps_standing.bind fun _ =>
      (Action.keeps_report _ _ _).bind fun _ => Action.keeps_pure _

theorem keeps_version : toolkit.version.Keeps SameCaches := by
  refine Action.keeps_get.bind fun session => ?_
  split
  · exact Action.keeps_pure _
  · refine toolkit.keeps_askVersion.bind fun reported? => ?_
    split
    · exact Action.keeps_pure _
    · have remembers (reported : Text) : (toolkit.rememberVersion reported).Keeps SameCaches :=
        fun _ => rfl
      refine (remembers _).bind fun _ => ?_
      split
      · exact Action.keeps_throw _
      · exact (Action.keeps_report _ _ _).bind fun _ => Action.keeps_pure _

theorem keeps_isMariaDb : toolkit.isMariaDb.Keeps SameCaches := by
  refine toolkit.keeps_version.bind fun version => ?_
  split
  · exact Action.keeps_pure _
  · exact Action.keeps_get.bind fun _ => Action.keeps_pure _

theorem keeps_listTables : toolkit.listTables.Keeps SameCaches := by
  refine (toolkit.connection.keeps_rows _ _).bind fun rows => ?_
  split <;> exact Action.keeps_pure _

end Toolkit

end DumpRestore
