/-
This file proves that a direct connection writes the value that it is given, whatever is in it. The
value stands in the statement as a literal in apostrophes. Of the replacements that escape it the
one of backslashes comes first, so that none of them meets a backslash that another one has put
there: together they replace each character by itself, and a text is escaped character by character.
What they put in the place of a character is read back as that character, and no apostrophe among it
can end the literal.
-/

import DumpRestore.Proofs.Connection.Modes
import DumpRestore.Proofs.Table.Stretches

namespace DumpRestore

/-! ### Escaped texts -/

namespace SqlLiteral

/-- What stands for a character in a literal. -/
def escaped (character : Char) : Text :=
  if character = '\n' then "\\n"
  else if character = '\r' then "\\r"
  else if character ∈ ['\\', '\'', '"', substitute] then ['\\', character]
  else [character]

/-- The character that a letter behind a backslash stands for. -/
def meaning (letter : Char) : Char :=
  if letter = 'n' then '\n' else if letter = 'r' then '\r' else letter

/-- The text that the inside of a literal stands for. -/
def unescape : Text → Text
  | [] => []
  | [character] => [character]
  | character :: next :: rest =>
    if character = '\\' then meaning next :: unescape rest
    else character :: unescape (next :: rest)

theorem escape_append (first second : Text) :
    escape (first ++ second) = escape first ++ escape second := by
  simp only [escape, Text.replaceChar, List.flatMap_append]

theorem escape_singleton (character : Char) : escape [character] = escaped character := by
  by_cases newline : character = '\n'
  · subst newline
    rfl
  by_cases carriageReturn : character = '\r'
  · subst carriageReturn
    rfl
  rw [escaped, if_neg newline, if_neg carriageReturn]
  by_cases marked : character ∈ ['\\', '\'', '"', substitute]
  · rw [if_pos marked]
    simp only [List.mem_cons, List.not_mem_nil, or_false] at marked
    rcases marked with rfl | rfl | rfl | rfl <;> rfl
  · rw [if_neg marked]
    simp only [List.mem_cons, List.not_mem_nil, or_false, not_or] at marked
    obtain ⟨backslash, apostrophe, quotation, control⟩ := marked
    simp only [escape, Text.replaceChar, List.flatMap_singleton, if_neg newline,
      if_neg carriageReturn, if_neg backslash, if_neg apostrophe, if_neg quotation, if_neg control]

theorem escape_cons (character : Char) (content : Text) :
    escape (character :: content) = escaped character ++ escape content := by
  rw [← escape_singleton, ← escape_append]
  rfl

/-- A character stands for itself, and is neither a backslash nor an apostrophe then, or a backslash
and a letter that means it stand for it. -/
theorem escaped_cases (character : Char) :
    (escaped character = [character] ∧ character ≠ '\\' ∧ character ≠ '\'') ∨
      ∃ letter, escaped character = ['\\', letter] ∧ meaning letter = character := by
  by_cases newline : character = '\n'
  · subst newline
    exact .inr ⟨'n', rfl, rfl⟩
  by_cases carriageReturn : character = '\r'
  · subst carriageReturn
    exact .inr ⟨'r', rfl, rfl⟩
  rw [escaped, if_neg newline, if_neg carriageReturn]
  by_cases marked : character ∈ ['\\', '\'', '"', substitute]
  · refine .inr ⟨character, if_pos marked, ?_⟩
    simp only [List.mem_cons, List.not_mem_nil, or_false] at marked
    rcases marked with rfl | rfl | rfl | rfl <;> rfl
  · refine .inl ⟨if_neg marked, fun backslash => marked ?_, fun apostrophe => marked ?_⟩
    · exact backslash ▸ List.mem_cons_self
    · exact apostrophe ▸ List.mem_cons_of_mem _ List.mem_cons_self

/-! ### Reading escaped texts -/

theorem unescape_plain (character : Char) (rest : Text) (other : character ≠ '\\') :
    unescape (character :: rest) = character :: unescape rest := by
  cases rest with
  | nil => rfl
  | cons next rest => rw [unescape, if_neg other]

/-- What a text is escaped to is read back as that text. -/
theorem unescape_escape (content : Text) : unescape (escape content) = content := by
  induction content with
  | nil => rfl
  | cons character content inductionHypothesis =>
    rw [escape_cons]
    obtain ⟨self, notBackslash, _⟩ | ⟨letter, pair, means⟩ := escaped_cases character
    · rw [self, List.singleton_append, unescape_plain character _ notBackslash,
        inductionHypothesis]
    · rw [pair, List.cons_append, List.singleton_append, unescape, if_pos rfl, means,
        inductionHypothesis]

/-- No apostrophe of an escaped text ends a literal. -/
theorem enclosed_escape (content : Text) : TableBody.Enclosed '\'' (escape content) := by
  induction content with
  | nil => exact .nil
  | cons character content inductionHypothesis =>
    rw [escape_cons]
    obtain ⟨self, notBackslash, notApostrophe⟩ | ⟨letter, pair, _⟩ := escaped_cases character
    · have unescaped : Nesting.escapes '\'' character = false := by
        rw [Nesting.escapes, beq_false_of_ne notBackslash, Bool.false_and]
      rw [self]
      exact .plain unescaped notApostrophe inductionHypothesis
    · rw [pair]
      exact .escape rfl inductionHypothesis

/-- A text is one whole literal in apostrophes, and stands for a content. -/
structure Carries (literal content : Text) : Prop where
  whole : TableBody.IsLiteralBefore literal []
  content : ∃ inside, literal = '\'' :: (inside ++ ['\'']) ∧ unescape inside = content

theorem carries_escape (content : Text) :
    Carries ('\'' :: (escape content ++ ['\''])) content where
  whole := (enclosed_escape content).isLiteralBefore rfl [] nofun
  content := ⟨escape content, rfl, unescape_escape content⟩

end SqlLiteral

/-! ### The statement of a write -/

namespace DirectConnection

variable (connection : DirectConnection) (name : Text) (value : Value) (session : Session)

/-- The server to which a write is sent: that of a supported handle, where it opens a cursor. -/
def opened? : Option Text :=
  connection.supportedHandle?.bind fun handle =>
    match (session.servers handle.server).respond (session.received handle.server) .openCursor with
    | .ok _ => some handle.server
    | .error _ => none

theorem statements_writeVariable :
    (connection.writeVariable name value session).2.statements = session.statements ++
      (connection.opened? session).toList.map (·, { sql := assignment name value }) := by
  unfold opened?
  cases supported : connection.supportedHandle? with
  | none =>
    rw [run_writeVariable_unsupported name value session supported]
    exact (List.append_nil _).symm
  | some handle =>
    rw [run_writeVariable name value session supported, Option.bind_some]
    unfold Session.asked
    cases (session.servers handle.server).respond (session.received handle.server)
        .openCursor with
    | error failure => exact (List.append_nil _).symm
    | ok cursor =>
      dsimp only
      cases (session.servers handle.server).respond (.openCursor :: session.received handle.server)
          (.execute { sql := assignment name value }) with
      | ok result => rfl
      | error failure => cases failure <;> rfl

/-- A write sends one statement wherever it opens a cursor, and none otherwise. What stands behind
the equals sign of the statement is one whole literal, which stands for the text of the value. -/
theorem writeVariable_carries :
    ∃ literal, SqlLiteral.Carries literal value.toText ∧
      (connection.writeVariable name value session).2.statements = session.statements ++
        (connection.opened? session).toList.map fun server =>
          (server, { sql := "SET SESSION " ++ SqlLiteral.escape name ++ "=" ++ literal }) := by
  refine ⟨_, SqlLiteral.carries_escape value.toText, ?_⟩
  have equal : assignment name value = "SET SESSION " ++ SqlLiteral.escape name ++ "=" ++
      ('\'' :: (SqlLiteral.escape value.toText ++ ['\''])) := by
    unfold assignment
    simp only [List.append_assoc]
    rfl
  rw [← equal]
  exact connection.statements_writeVariable name value session

end DirectConnection

end DumpRestore
