/-
This file says which names of storage engines and session variables a managed connection refuses.
A name that is refused leaves the session as it is but for the log. A name that is not is sent as it
stands, so that all depends on which names are plain. Of the characters outside words a newline gets
through, where it stands alone behind a word.
-/

import DumpRestore.Proofs.Identifier
import DumpRestore.Proofs.Probe.Trials

namespace DumpRestore

/-! ### Session variables -/

namespace Connection

variable (connection : Connection) (name : Text) (session : Session)

/-- A variable is refused: it is neither read nor written, and the log is all that changes. -/
structure RefusesVariable : Prop where
  read : ∃ journal, connection.readVariable name session =
    (.ok (.bool false), { session with journal })
  write : ∀ value, ∃ journal, connection.writeVariable name value session =
    (.ok false, { session with journal })

theorem refusesVariable_of_not_isPlain (unplain : ¬ Identifier.isPlain name = true) :
    connection.RefusesVariable name session := by
  constructor
  · unfold readVariable
    rw [if_neg unplain]
    exact ⟨_, rfl⟩
  · intro value
    unfold writeVariable
    rw [if_neg unplain]
    exact ⟨_, rfl⟩

/-- A variable with a plain name is read by a statement that holds the name as it is. -/
theorem conversation_readVariable (plain : Identifier.isPlain name = true) :
    Conversation connection [{ sql := "SELECT @@SESSION." ++ name }] session
      (connection.readVariable name session).2 := by
  have meets : (connection.readVariable name).Meets
      (Conversation connection [{ sql := "SELECT @@SESSION." ++ name }]) (fun _ => True)
      Fault.IsIncident := by
    unfold readVariable
    rw [if_pos plain]
    refine (connection.meets_rows _ none).andThen (fun rows _ => ?_) (fun _ _ said => said)
      fun _ middle after said (same : middle = after) => same ▸ said
    split
    · exact Action.meets_pure trivial
    · exact Action.meets_pure trivial
    · exact Action.meets_decode _ fun _ _ => nofun
  exact (meets session).1

/-- A name that is no word is refused for a variable exactly if no newline stands behind a word. -/
theorem refusesVariable_iff (noWord : ¬ Identifier.IsWord name) :
    connection.RefusesVariable name session ↔ ¬ Identifier.IsWordLine name := by
  rw [← Identifier.isPlain_iff_of_not_isWord name noWord]
  refine ⟨fun refuses plain => ?_, connection.refusesVariable_of_not_isPlain name session⟩
  obtain ⟨journal, run⟩ := refuses.read
  have attempts := (connection.conversation_readVariable name session plain).attempts
  rw [run] at attempts
  exact List.cons_ne_nil _ _ (List.self_eq_append_right.mp attempts)

end Connection

/-! ### Storage engines -/

namespace Inspector

variable (inspector : Inspector) (engine : Text) (session : Session)

/-- A storage engine is refused with its name, and nothing changes. -/
def RefusesEngine : Prop :=
  inspector.columnSupport engine session = (.error (.invalidEngine engine), session)

/-- A name that is no word is refused for a storage engine exactly if no newline stands behind a
word. The empty name is the default engine. -/
theorem refusesEngine_iff (named : engine ≠ []) (noWord : ¬ Identifier.IsWord engine) :
    inspector.RefusesEngine engine session ↔ ¬ Identifier.IsWordLine engine := by
  have valid : IsEngine engine ↔ Identifier.IsWordLine engine :=
    (or_iff_right named).trans (Identifier.isPlain_iff_of_not_isWord engine noWord)
  rw [← valid]
  refine ⟨fun refuses engineValid => ?_, inspector.columnSupport_refused engine session⟩
  unfold RefusesEngine at refuses
  cases found : (session.caches inspector.cache).get? (columnsKey engine) with
  | some result =>
    rw [inspector.columnSupport_cached engine session engineValid result found] at refuses
    cases refuses
  | none =>
    obtain ⟨caches, run⟩ := inspector.columnSupport_of_missing engine session engineValid found
    obtain ⟨between, _, asked⟩ := inspector.exists_asked_suppressed _
      (inspector.begins_probeColumns (inspector.throwawayTable session) engine).keeps session
    have attempts := asked.attempts
    generalize inspector.suppressed _ _ session = reached at run attempts
    rw [refuses] at run
    rw [← congrArg Session.attempts run] at attempts
    exact List.cons_ne_nil _ _ (List.self_eq_append_right.mp attempts)

end Inspector

/-! ### Names that are no words -/

namespace Identifier

/-- Names that are no words are refused, for storage engines and for variables alike, unless they
are words with a newline behind them. -/
theorem unplain_refused_iff (name : Text) (noWord : ¬ IsWord name) :
    (name ≠ [] → ∀ (inspector : Inspector) session,
      inspector.RefusesEngine name session ↔ ¬ IsWordLine name) ∧
    ∀ (connection : Connection) session,
      connection.RefusesVariable name session ↔ ¬ IsWordLine name :=
  ⟨fun named inspector session => inspector.refusesEngine_iff name session named noWord,
    fun connection session => connection.refusesVariable_iff name session noWord⟩

/-- A word with two newlines behind it is refused. -/
theorem unplain_refused_iff_newlines :
    let server : Server := { respond := fun _ _ => .ok {} }
    let session : Session := { servers := fun _ => server, clock := [], random := 0 }
    let inspector : Inspector :=
      { connection := .shared "main", cache := 0, tablePrefix := "wp_", reporter := .component }
    ¬ IsWord "InnoDB\n\n" ∧ ("InnoDB\n\n" : Text) ≠ [] ∧
      inspector.RefusesEngine "InnoDB\n\n" session ∧
      inspector.connection.RefusesVariable "InnoDB\n\n" session := by
  intro server session inspector
  have noWord : ¬ IsWord "InnoDB\n\n" := fun isWord => absurd (isWord.2 '\n') (by decide)
  have named : ("InnoDB\n\n" : Text) ≠ [] := by decide
  have noLine : ¬ IsWordLine "InnoDB\n\n" := by
    rintro ⟨word, isWord, equal⟩
    have cut : ("InnoDB\n" : Text) ++ ['\n'] = word ++ ['\n'] := equal
    have same : ("InnoDB\n" : Text) = word := List.append_cancel_right cut
    exact absurd (isWord.2 '\n' (same ▸ by decide)) (by decide)
  obtain ⟨asEngine, asVariable⟩ := unplain_refused_iff "InnoDB\n\n" noWord
  exact ⟨noWord, named, (asEngine named inspector session).mpr noLine,
    (asVariable inspector.connection session).mpr noLine⟩

/-- A variable whose name ends in a newline is read by a statement with the newline in it. -/
theorem not_refused_newline :
    let server : Server := { respond := fun _ _ => .ok {} }
    let session : Session := { servers := fun _ => server, clock := [], random := 0 }
    let connection := Connection.shared "main"
    ¬ IsWord "sql_mode\n" ∧ ¬ connection.RefusesVariable "sql_mode\n" session ∧
      (connection.readVariable "sql_mode\n" session).2.statements.map (·.2.sql) =
        ["SELECT @@SESSION.sql_mode\n".toList] := by
  intro server session connection
  have sent : (connection.readVariable "sql_mode\n" session).2.statements.map (·.2.sql) =
      ["SELECT @@SESSION.sql_mode\n".toList] := by
    decide
  refine ⟨fun isWord => absurd (isWord.2 '\n') (by decide), fun refuses => ?_, sent⟩
  obtain ⟨journal, run⟩ := refuses.read
  rw [run] at sent
  cases sent

end Identifier

end DumpRestore
