/-
This file proves that a variable may be read on a managed connection or directly on its handle. The
two readers differ in what they do with the name, with rows and with errors. A name that is a word
is sent as it stands by both, since escaping changes none of its characters; a row whose columns
have names of their own is the mapping that it is read as; and an error of the server is false for
both of them, wherever it occurs.
-/

import DumpRestore.Proofs.Connection.Literals

namespace DumpRestore

/-! ### Names that are words -/

theorem SqlLiteral.escape_of_isWord (name : Text) (isWord : Identifier.IsWord name) :
    escape name = name := by
  have self (content : Text)
      (inWord : ∀ character ∈ content, Text.isWordChar character = true) :
      escape content = content := by
    induction content with
    | nil => rfl
    | cons character content inductionHypothesis =>
      have other (mark : Char) (gap : Text.isWordChar mark = false) : character ≠ mark :=
        Text.ne_of_isWordChar mark character gap (inWord character List.mem_cons_self)
      have unmarked : character ∉ ['\\', '\'', '"', substitute] := by
        simp only [List.mem_cons, List.not_mem_nil, or_false, not_or]
        exact ⟨other '\\' rfl, other '\'' rfl, other '"' rfl, other substitute rfl⟩
      rw [escape_cons, escaped, if_neg (other '\n' rfl), if_neg (other '\r' rfl), if_neg unmarked,
        inductionHypothesis fun other member => inWord other (List.mem_cons_of_mem _ member)]
      rfl
  exact self name isWord.2

/-! ### Rows whose columns have names of their own -/

/-- The columns of each row have names of their own. -/
def ResultSet.HasDistinctColumns (result : ResultSet) : Prop :=
  ∀ row ∈ result.rows.getD [], (row.map Prod.fst).Nodup

namespace Row

theorem put_of_not_mem (name : Text) (value : Value) (row : Row)
    (absent : name ∉ row.map Prod.fst) : put name value row = row ++ [(name, value)] := by
  induction row with
  | nil => rfl
  | cons entry row inductionHypothesis =>
    obtain ⟨notFirst, notLater⟩ := not_or.mp (List.mem_cons.not.mp absent)
    rw [put, if_neg (Ne.symm notFirst), inductionHypothesis notLater]
    rfl

theorem toMapping_eq_self (row : Row) (distinct : (row.map Prod.fst).Nodup) :
    row.toMapping = row := by
  have grows (row mapping : Row) (distinct : ((mapping ++ row).map Prod.fst).Nodup) :
      row.foldl (fun mapping entry => put entry.1 entry.2 mapping) mapping = mapping ++ row := by
    induction row generalizing mapping with
    | nil => exact (List.append_nil mapping).symm
    | cons entry row inductionHypothesis =>
      have absent : entry.1 ∉ mapping.map Prod.fst := by
        rw [List.map_append, List.map_cons] at distinct
        exact fun member =>
          (List.nodup_append.mp distinct).2.2 _ member _ List.mem_cons_self rfl
      rw [List.append_cons] at distinct ⊢
      rw [List.foldl_cons, put_of_not_mem _ _ _ absent, inductionHypothesis _ distinct]
  exact grows row [] distinct

end Row

/-- Both sorts of channels then find the same first value. -/
theorem Channel.firstValue_eq (connection : Connection) (direct : DirectConnection)
    (result : ResultSet) (distinct : result.HasDistinctColumns) :
    (Channel.managed connection).firstValue result = (Channel.direct direct).firstValue result := by
  obtain ⟨_ | _ | ⟨row, rows⟩, count⟩ := result
  · rfl
  · rfl
  · exact congrArg Row.first (Row.toMapping_eq_self row (distinct row List.mem_cons_self))

/-! ### Two readers of a variable -/

/-- What a server was sent between two sessions is one statement: it was asked for a cursor, and
was given the statement where it opened one. -/
structure Session.Sends (server : Text) (statement : Statement) (before after : Session) :
    Prop where
  received : after.received = (before.asked server statement).received
  statements : after.statements = (before.asked server statement).statements

theorem Connection.sends_given (connection : Connection) (statement : Statement)
    (session : Session) : session.Sends connection.server statement
      ((connection.given statement session).asked connection.server statement) := by
  cases opened : (session.servers connection.server).respond (session.received connection.server)
      .openCursor with
  | error failure | ok cursor =>
    have given : ((connection.given statement session).servers connection.server).respond
        ((connection.given statement session).received connection.server) .openCursor = _ := opened
    constructor <;> unfold Session.asked <;> rw [opened, given] <;> rfl

/-- A variable that is read on a managed connection and directly on its handle is asked for by the
same statement, and has the same value or ends in the same fault. -/
theorem Channel.reads_alike (connection : Connection) (direct : DirectConnection) (handle : Handle)
    (name : Text) (session : Session) (isWord : Identifier.IsWord name)
    (supported : direct.supportedHandle? = some handle)
    (shared : connection.server = handle.server)
    (distinct : ∀ result, session.answer handle.server { sql := "SELECT @@SESSION." ++ name } =
      .ok result → result.HasDistinctColumns) :
    let statement : Statement := { sql := "SELECT @@SESSION." ++ name }
    let managed := connection.readVariable name session
    let raw := direct.readVariable name session
    managed.1 = raw.1 ∧ session.Sends handle.server statement managed.2 ∧
      session.Sends handle.server statement raw.2 := by
  intro statement managed raw
  have query : DirectConnection.query name = statement :=
    congrArg (fun name => ({ sql := "SELECT @@SESSION." ++ name } : Statement))
      (SqlLiteral.escape_of_isWord name isWord)
  have plain := (Identifier.isPlain_iff name).mpr (.inl isWord)
  have sends := connection.sends_given statement session
  have managedRun := connection.run_readVariable name session plain
  have rawRun := DirectConnection.run_readVariable name session supported
  rw [connection.run_attempt] at managedRun
  rw [query] at rawRun
  show (connection.readVariable name session).1 = (direct.readVariable name session).1 ∧
    session.Sends handle.server statement (connection.readVariable name session).2 ∧
    session.Sends handle.server statement (direct.readVariable name session).2
  rw [shared] at sends managedRun
  rw [managedRun, rawRun]
  unfold Session.answer at distinct ⊢
  cases answered : ((session.servers handle.server).ask (session.received handle.server)
      statement).1 with
  | ok result =>
    dsimp only
    rw [Action.run_decode, Action.run_decode,
      Channel.firstValue_eq connection direct result (distinct result answered)]
    exact ⟨rfl, sends, rfl, rfl⟩
  | error failure =>
    cases failure with
    | refused error => exact ⟨rfl, ⟨sends.received, sends.statements⟩, rfl, rfl⟩
    | crashed crash => exact ⟨rfl, sends, rfl, rfl⟩

/-- A server that answers with bytes in the first of two columns. -/
theorem Channel.reads_alike_bytes :
    let row : Row := [("@@SESSION.sql_mode", .bytes [0x41, 0x4E, 0x53, 0x49]), ("rank", .int 1)]
    let server : Server := { respond := fun _ _ => .ok { rows := some [row], count := 1 } }
    let session : Session := { servers := fun _ => server, clock := [], random := 0 }
    let handle : Handle := { server := "main", kind := .pooled }
    let connection := Connection.shared "main"
    let direct : DirectConnection := { handle := some handle, reporter := .component }
    Identifier.IsWord "sql_mode" ∧ direct.supportedHandle? = some handle ∧
      connection.server = handle.server ∧
      (∀ result, session.answer handle.server { sql := "SELECT @@SESSION.sql_mode" } =
        .ok result → result.HasDistinctColumns) ∧
      (direct.readVariable "sql_mode" session).1 = .ok (.text "ANSI") ∧
      (connection.readVariable "sql_mode" session).1 = .ok (.text "ANSI") := by
  intro row server session handle connection direct
  have isWord : Identifier.IsWord "sql_mode" :=
    ⟨by decide, List.all_eq_true.mp (by decide +kernel)⟩
  have distinct : ∀ result, session.answer handle.server { sql := "SELECT @@SESSION.sql_mode" } =
      .ok result → result.HasDistinctColumns := by
    intro result answered
    have given : result = { rows := some [row], count := 1 } := (Except.ok.inj answered).symm
    rw [given]
    intro other member
    rw [List.mem_singleton.mp member]
    decide
  have read : (direct.readVariable "sql_mode" session).1 = .ok (.text "ANSI") := rfl
  have alike := reads_alike connection direct handle "sql_mode" session isWord rfl rfl distinct
  exact ⟨isWord, rfl, rfl, distinct, read, alike.1.trans read⟩

end DumpRestore
