/-
This file says how actions run and what they leave as it is. The first of two actions decides
whether the second one runs at all, and changes made before a fault stay. What an action keeps is a
relation between the session before it and the session after it, whatever value or fault it gives;
a preorder that both of two actions keep is kept by the two of them in a row, by handlers and by
cleanups, so that it is enough to look at the places where a session is changed. What an action
meets is a relation that it keeps together with the sort of its values and of its faults, and is
found out in the same way.
-/

import DumpRestore.Session.Basic
import Mathlib.Order.Defs.Unbundled

namespace DumpRestore

/-! ### Functions with one value set -/

section Update

variable {Key Item : Type} [DecidableEq Key] (items : Key → Item) (key : Key) (item : Item)

theorem update_self : update items key item key = item := if_pos rfl

theorem update_eq_self : update items key (items key) = items := by
  funext other
  unfold update
  split
  · rename_i same
    rw [same]
  · rfl

theorem update_update (last : Item) :
    update (update items key item) key last = update items key last := by
  funext other
  unfold update
  split <;> rfl

end Update

namespace Action

variable {Result Next : Type}

/-! ### Runs -/

/-- An action in front of others: they run where it gives a value, and a fault ends all of them. -/
theorem run_bind (action : Action Result) (next : Result → Action Next) (session : Session) :
    (action >>= next) session = match action session with
      | (.ok result, after) => next result after
      | (.error fault, after) => (.error fault, after) := by
  show ExceptT.bind action next session = _
  simp only [ExceptT.bind, ExceptT.mk, bind, StateT.bind]
  rcases action session with ⟨_ | _, _⟩ <;> rfl

theorem run_bind_ok {action : Action Result} {session after : Session} {result : Result}
    (next : Result → Action Next) (run : action session = (.ok result, after)) :
    (action >>= next) session = next result after := by
  rw [run_bind, run]

/-- Computing with the value of an action leaves its faults and its session as they are. -/
theorem run_map (action : Action Result) (compute : Result → Next) (session : Session) :
    (action >>= fun result => pure (compute result)) session =
      ((action session).1.map compute, (action session).2) := by
  rw [run_bind]
  rcases action session with ⟨_ | _, _⟩ <;> rfl

/-- Where an action with others behind it gives a value, it was given by the last of them. -/
theorem exists_of_run_bind {action : Action Result} {next : Result → Action Next}
    {session after : Session} {result : Next}
    (run : (action >>= next) session = (.ok result, after)) :
    ∃ former middle, action session = (.ok former, middle) ∧
      next former middle = (.ok result, after) := by
  rw [run_bind] at run
  generalize action session = reached at run ⊢
  rcases reached with ⟨fault | former, middle⟩
  · cases run
  · exact ⟨former, middle, rfl, run⟩

theorem run_get (session : Session) : (get : Action Session) session = (.ok session, session) := rfl

theorem run_set (next session : Session) :
    (set next : Action PUnit) session = (.ok ⟨⟩, next) := rfl

theorem run_tryCatch (action : Action Result) (handler : Fault → Action Result)
    (session : Session) :
    (tryCatch action handler : Action Result) session = match action session with
      | (.ok result, after) => (.ok result, after)
      | (.error fault, after) => handler fault after := by
  show ExceptT.tryCatch action handler session = _
  simp only [ExceptT.tryCatch, ExceptT.mk, bind, StateT.bind]
  rcases action session with ⟨_ | _, _⟩ <;> rfl

/-- A request is remembered, and its failure is a fault. -/
theorem run_send (server : Text) (request : Request) (session : Session) :
    send server request session =
      (((session.servers server).respond (session.received server) request).mapError
        Fault.ofFailure, remember server request session) := by
  unfold send
  rw [run_bind_ok _ (run_get session),
    run_bind_ok _ (run_set (remember server request session) session)]
  cases (session.servers server).respond (session.received server) request <;> rfl

/-! ### What actions keep -/

/-- An action keeps a relation that holds between the session before it and the session after it,
whether it gives a value or a fault. -/
def Keeps (relation : Session → Session → Prop) (action : Action Result) : Prop :=
  ∀ session, relation session (action session).2

section Keeps

variable {relation : Session → Session → Prop} [IsPreorder Session relation]

theorem keeps_pure (result : Result) : Keeps relation (pure result : Action Result) :=
  fun session => refl_of relation session

theorem keeps_throw (fault : Fault) : Keeps relation (throw fault : Action Result) :=
  fun session => refl_of relation session

theorem keeps_get : Keeps relation (get : Action Session) :=
  fun session => refl_of relation session

theorem Keeps.bind {action : Action Result} {next : Result → Action Next}
    (first : Keeps relation action) (second : ∀ result, Keeps relation (next result)) :
    Keeps relation (action >>= next) := by
  intro session
  have former := first session
  rw [run_bind]
  generalize action session = reached at former ⊢
  rcases reached with ⟨_ | result, after⟩
  · exact former
  · exact trans_of relation former (second result after)

omit [IsPreorder Session relation] in
/-- Computing with the value of an action changes nothing. -/
theorem Keeps.map {action : Action Result} (keeps : Keeps relation action)
    (compute : Result → Next) :
    Keeps relation (action >>= fun result => pure (compute result)) := by
  intro session
  have kept := keeps session
  rw [run_bind]
  generalize action session = reached at kept ⊢
  rcases reached with ⟨_ | _, _⟩ <;> exact kept

omit [IsPreorder Session relation] in
theorem Keeps.catchRefusal {action : Action Result} (keeps : Keeps relation action) :
    Keeps relation (catchRefusal action) := by
  intro session
  have kept := keeps session
  unfold Action.catchRefusal
  generalize action session = reached at kept ⊢
  rcases reached with ⟨fault | result, after⟩
  · cases fault <;> exact kept
  · exact kept

theorem Keeps.tryCatch {action : Action Result} {handler : Fault → Action Result}
    (first : Keeps relation action) (second : ∀ fault, Keeps relation (handler fault)) :
    Keeps relation (tryCatch action handler) := by
  intro session
  have former := first session
  rw [run_tryCatch]
  generalize action session = reached at former ⊢
  rcases reached with ⟨fault | result, after⟩
  · exact trans_of relation former (second fault after)
  · exact former

theorem Keeps.ensuring {action : Action Result} {cleanup : Action Unit}
    (first : Keeps relation action) (second : Keeps relation cleanup) :
    Keeps relation (ensuring action cleanup) := by
  intro session
  have former := first session
  unfold Action.ensuring
  generalize action session = reached at former ⊢
  rcases reached with ⟨outcome, after⟩
  have latter := second after
  dsimp only at former ⊢
  generalize cleanup after = cleaned at latter ⊢
  rcases cleaned with ⟨_ | _, cleaned⟩ <;> exact trans_of relation former latter

end Keeps

/-! ### What actions come to -/

/-- An outcome is a value of some sort, or a fault of some sort. -/
def IsOutcome (value : Result → Prop) (raised : Fault → Prop) : Except Fault Result → Prop
  | .ok result => value result
  | .error fault => raised fault

/-- An action keeps a relation and comes to outcomes of some sort. -/
def Meets (relation : Session → Session → Prop) (value : Result → Prop) (raised : Fault → Prop)
    (action : Action Result) : Prop :=
  ∀ session, relation session (action session).2 ∧ IsOutcome value raised (action session).1

section Meets

variable {relation first second : Session → Session → Prop} {value : Result → Prop}
  {later : Next → Prop} {raised : Fault → Prop} {action : Action Result}
  {next : Result → Action Next}

theorem Meets.keeps (meets : Meets relation value raised action) : Keeps relation action :=
  fun session => (meets session).1

/-- The relations of two actions may differ, as long as they compose. -/
theorem Meets.andThen (former : Meets first value raised action)
    (latter : ∀ result, value result → Meets second later raised (next result))
    (stops : ∀ before after, first before after → relation before after)
    (goesOn : ∀ before middle after, first before middle → second middle after →
      relation before after) :
    Meets relation later raised (action >>= next) := by
  intro session
  have begins := former session
  rw [run_bind]
  generalize action session = reached at begins ⊢
  rcases reached with ⟨_ | result, middle⟩
  · exact ⟨stops _ _ begins.1, begins.2⟩
  · have ends := latter result begins.2 middle
    exact ⟨goesOn _ _ _ begins.1 ends.1, ends.2⟩

theorem Meets.map (meets : Meets relation value raised action) (compute : Result → Next)
    (gives : ∀ result, value result → later (compute result)) :
    Meets relation later raised (action >>= fun result => pure (compute result)) := by
  have computes : ∀ result, value result →
      Meets (fun before after => after = before) later raised
        (pure (compute result) : Action Next) :=
    fun result given _ => ⟨rfl, gives result given⟩
  exact meets.andThen computes (fun _ _ kept => kept) fun _ _ _ kept same => same ▸ kept

variable [IsPreorder Session relation]

theorem meets_pure {result : Result} (gives : value result) :
    Meets relation value raised (pure result) :=
  fun session => ⟨refl_of relation session, gives⟩

theorem Meets.bind (former : Meets relation value raised action)
    (latter : ∀ result, value result → Meets relation later raised (next result)) :
    Meets relation later raised (action >>= next) :=
  former.andThen latter (fun _ _ kept => kept) fun _ _ _ => trans_of relation

theorem meets_decode (setting : Value) (raises : ∀ flaw, raised (.undecodable flaw)) :
    Meets relation (fun _ => True) raised (decode setting) := by
  unfold decode
  split
  · split
    · exact meets_pure trivial
    · exact fun session => ⟨refl_of relation session, raises _⟩
  · split
    · exact meets_pure trivial
    · exact fun session => ⟨refl_of relation session, raises _⟩
  · exact meets_pure trivial

theorem keeps_decode (setting : Value) : Keeps relation (decode setting) := by
  have meets : Meets relation (fun _ => True) (fun _ => True) (decode setting) :=
    meets_decode setting fun _ => trivial
  exact meets.keeps

end Meets

end Action

end DumpRestore
