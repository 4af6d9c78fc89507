/-
This file counts how often a record of a toolkit is printed. All toolkits of a session share one log,
and opening a toolkit that is not quiet opens one more screen for it, whether there is a toolkit in
the end or not. Nothing else opens a screen and nothing closes one, so that at any time there are as
many screens as toolkits were opened that are not quiet, and a record is printed once for each of
them, whichever toolkit reports it. It is printed as often as it should be exactly if all the other
toolkits that were opened by then are quiet.
-/

import DumpRestore.Proofs.Toolkit.Opening

namespace DumpRestore

/-! ### Screens of a log -/

namespace Journal

variable (journal : Journal) (record : Record)

/-- Writing to the log files leaves everything but their contents as it is. -/
theorem write_eq (bytes : List UInt8) (writers : List LogWriter) :
    (write bytes writers journal).2 =
      { journal with files := (write bytes writers journal).2.files } := by
  induction writers generalizing journal with
  | nil => rfl
  | cons writer writers inductionHypothesis => exact inductionHypothesis _

/-- A record is printed once on every screen, and goes to the log files. Nothing else changes. -/
theorem publish_eq :
    journal.publish record =
      { journal with
        screen := journal.screen ++
          (List.replicate journal.screens (line journal.stamp record)).flatten
        files := (journal.publish record).files
        writers := (journal.publish record).writers } := by
  have written := journal.write_eq (Text.toUtf8 (line journal.stamp record)) journal.writers
  unfold publish
  dsimp only
  rw [written]

theorem add_screens (reporter : Reporter) :
    (journal.add reporter record).screens = journal.screens := by
  cases reporter with
  | toolkit => rw [add, publish_eq]
  | component => rfl

theorem line_ne_nil (stamp : Text) : line stamp record ≠ [] := by
  unfold line
  intro same
  cases (List.append_eq_nil_iff.mp same).2

end Journal

/-- Copies of something that is not empty can be counted. -/
theorem flatten_replicate_injective {Item : Type} {items : List Item} (occupied : items ≠ []) :
    Function.Injective fun times => (List.replicate times items).flatten := by
  intro first second same
  have length := congrArg List.length same
  dsimp only at length
  rw [List.length_flatten, List.length_flatten, List.map_replicate, List.map_replicate,
    List.sum_replicate_nat, List.sum_replicate_nat] at length
  exact Nat.eq_of_mul_eq_mul_right (List.length_pos_iff.mpr occupied) length

namespace Toolkit

/-! ### Openings -/

/-- As many screens are open. -/
def SameScreens (before after : Session) : Prop :=
  after.journal.screens = before.journal.screens

instance : IsPreorder Session SameScreens where
  refl _ := rfl
  trans _ _ _ former latter := latter.trans former

theorem allowsOpening_sameScreens : AllowsOpening SameScreens where
  freshKey _ := rfl
  login _ _ := rfl
  report _ _ _ := Journal.add_screens _ _ _
  startMemory _ _ := rfl

/-- What a toolkit is opened with. -/
structure Opening where
  settings : Settings
  server : Text

/-- Whether a toolkit that is opened is to show its records. -/
def Opening.isLoud (opening : Opening) : Bool :=
  !opening.settings.quiet.isTruthy

/-- Opening a toolkit opens one more screen unless the toolkit is quiet. -/
theorem screens_new (opening : Opening) (session : Session) :
    (new opening.settings opening.server session).2.journal.screens =
      session.journal.screens + if opening.isLoud then 1 else 0 := by
  have same := allowsOpening_sameScreens.new opening.settings opening.server session
  unfold SameScreens logged openedLog at same
  rw [same]
  unfold Opening.isLoud
  cases opening.settings.quiet.isTruthy <;>
    cases Settings.given? opening.settings.logFile <;> rfl

/-! ### Sequences of openings -/

/-- What happens to the log of a session: a toolkit is opened, or something is reported, by a
toolkit or by a component of its own. -/
inductive Event where
  | opened (opening : Opening)
  | reported (reporter : Reporter) (record : Record)

namespace Event

/-- The session after an event, also where opening ends in a fault. -/
def after (session : Session) : Event → Session
  | .opened opening => (new opening.settings opening.server session).2
  | .reported reporter record =>
    (Action.report reporter record.level record.message session).2

/-- Whether an event opens a screen. -/
def isLoud : Event → Bool
  | .opened opening => opening.isLoud
  | .reported _ _ => false

theorem screens_after (event : Event) (session : Session) :
    (event.after session).journal.screens =
      session.journal.screens + if event.isLoud then 1 else 0 := by
  cases event with
  | opened opening => exact screens_new opening session
  | reported reporter record => exact Journal.add_screens _ record reporter

end Event

/-- The session after events, one after the other. -/
def afterEvents (session : Session) (events : List Event) : Session :=
  events.foldl Event.after session

/-- There is one more screen for every toolkit that was opened and is not quiet. -/
theorem screens_afterEvents (session : Session) (events : List Event) :
    (afterEvents session events).journal.screens =
      session.journal.screens + events.countP Event.isLoud := by
  induction events generalizing session with
  | nil => rfl
  | cons event events inductionHypothesis =>
    unfold afterEvents at inductionHypothesis ⊢
    rw [List.foldl_cons, inductionHypothesis, Event.screens_after, List.countP_cons]
    omega

/-! ### Printed records -/

/-- A record that a toolkit reports is printed so many times on the screen. -/
def Prints (session : Session) (record : Record) (times : Nat) : Prop :=
  (Action.report .toolkit record.level record.message session).2.journal.screen =
    session.journal.screen ++
      (List.replicate times (Journal.line session.journal.stamp record)).flatten

theorem prints_iff (session : Session) (record : Record) (times : Nat) :
    Prints session record times ↔ times = session.journal.screens := by
  have printed : (Action.report .toolkit record.level record.message session).2.journal.screen =
      session.journal.screen ++ (List.replicate session.journal.screens
        (Journal.line session.journal.stamp record)).flatten :=
    congrArg Journal.screen (Journal.publish_eq _ record)
  unfold Prints
  rw [printed, List.append_cancel_left_eq]
  constructor
  · intro same
    exact (flatten_replicate_injective (Journal.line_ne_nil record _) same).symm
  · intro same
    rw [same]

/-- How often a toolkit is to print a record. -/
def Opening.prints (opening : Opening) : Nat :=
  if opening.isLoud then 1 else 0

/-- A record is printed once for each toolkit that was opened and is not quiet. This is as often as
the toolkit that reports it is to print it, exactly if every other one is quiet, be it opened before
it or after it. -/
theorem prints_afterEvents_iff (start : Session) (noScreens : start.journal.screens = 0)
    (earlier later : List Event) (opening : Opening) (record : Record) :
    (∀ times, Prints (afterEvents start (earlier ++ .opened opening :: later)) record times ↔
      times = (earlier ++ .opened opening :: later).countP Event.isLoud) ∧
    (Prints (afterEvents start (earlier ++ .opened opening :: later)) record opening.prints ↔
      ∀ event ∈ earlier ++ later, event.isLoud = false) := by
  have counted (times : Nat) :
      Prints (afterEvents start (earlier ++ .opened opening :: later)) record times ↔
        times = (earlier ++ .opened opening :: later).countP Event.isLoud := by
    rw [prints_iff, screens_afterEvents, noScreens, Nat.zero_add]
  refine ⟨counted, ?_⟩
  -- Every screen is that of the opening in question or that of another one.
  have others : (earlier ++ .opened opening :: later).countP Event.isLoud =
      (earlier ++ later).countP Event.isLoud + opening.prints := by
    rw [List.countP_append, List.countP_cons, List.countP_append, Nat.add_assoc]
    rfl
  rw [counted, others]
  constructor
  · intro same event among
    have none : (earlier ++ later).countP Event.isLoud = 0 := by omega
    exact Bool.eq_false_iff.mpr (List.countP_eq_zero.mp none event among)
  · intro quiet
    have none : (earlier ++ later).countP Event.isLoud = 0 :=
      List.countP_eq_zero.mpr fun event among => Bool.eq_false_iff.mp (quiet event among)
    rw [none, Nat.zero_add]

/-- The only toolkit that is not quiet prints its records once. -/
theorem prints_among_quiet :
    let server : Server := { respond := fun _ _ => .ok {} }
    let start : Session := { servers := fun _ => server, clock := [], random := 0 }
    let quiet : Opening :=
      { settings := { quiet := .bool true, connection := .channel (.managed (.shared "main")) }
        server := "main" }
    let loud : Opening :=
      { settings := { connection := .channel (.managed (.shared "main")) }, server := "main" }
    let record : Record := { level := .debug, message := "Connected to MySQL 8.0.36" }
    start.journal.screens = 0 ∧
      Prints (afterEvents start [.opened quiet, .opened loud, .opened quiet]) record 1 := by
  intro server start quiet loud record
  have noScreens : start.journal.screens = 0 := rfl
  refine ⟨noScreens, ?_⟩
  refine (prints_afterEvents_iff start noScreens [.opened quiet] [.opened quiet] loud record).2.mpr
    fun event among => ?_
  have same : event ∈ List.replicate 2 (.opened quiet) := among
  rw [List.eq_of_mem_replicate same]
  rfl

/-- Two toolkits that are not quiet print every record twice, and one that is quiet prints the
records that another one is to print. -/
theorem not_prints_among_loud :
    let server : Server := { respond := fun _ _ => .ok {} }
    let start : Session := { servers := fun _ => server, clock := [], random := 0 }
    let quiet : Opening :=
      { settings := { quiet := .bool true, connection := .channel (.managed (.shared "main")) }
        server := "main" }
    let loud : Opening :=
      { settings := { connection := .channel (.managed (.shared "main")) }, server := "main" }
    let record : Record := { level := .debug, message := "Connected to MySQL 8.0.36" }
    (∃ toolkit after, new loud.settings loud.server start = (.ok toolkit, after)) ∧
      ¬ Prints (afterEvents start [.opened loud, .opened loud]) record loud.prints ∧
      Prints (afterEvents start [.opened loud, .opened loud]) record 2 ∧
      ¬ Prints (afterEvents start [.opened quiet, .opened loud]) record quiet.prints ∧
      Prints (afterEvents start [.opened quiet, .opened loud]) record 1 := by
  intro server start quiet loud record
  refine ⟨⟨_, _, rfl⟩, ?_, (prints_iff ..).mpr rfl, ?_, (prints_iff ..).mpr rfl⟩
  · rw [prints_iff]
    exact (Nat.succ_ne_self 1).symm
  · rw [prints_iff]
    exact Nat.zero_ne_one

end Toolkit

end DumpRestore
