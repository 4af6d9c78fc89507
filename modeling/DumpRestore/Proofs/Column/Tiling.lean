/-
This file proves that the tokens of a generated column tile the source. The definition of a column
stands in its fragment as it is; it is the quoted name followed by the texts of the tokens, in the
order of their kinds; and every token gives the position at which its text stands, the one where
the token before it ends. The backtick is the character 0x60.
-/

import DumpRestore.Table.Columns
import DumpRestore.Proofs.Column.Head
import DumpRestore.Proofs.Column.Tokens
import DumpRestore.Proofs.Table.Fragments

namespace DumpRestore

namespace Column

/-! ### Tokens in a source -/

/-- Tokens in a row that spell out a stretch of a source stand where they say. -/
theorem Consecutive.standsAt {source : Text} {base : Int} {position : Nat} {tokens : List Token}
    (consecutive : Consecutive (base + position) tokens)
    (standing : Text.StandsAt source position (tokens.flatMap Token.text)) (token : Token)
    (member : token ∈ tokens) :
    ∃ start : Nat, token.offset = base + start ∧ Text.StandsAt source start token.text := by
  induction tokens generalizing position with
  | nil => cases member
  | cons first tokens inductionHypothesis =>
    obtain ⟨here, further⟩ := consecutive
    rcases List.mem_cons.mp member with rfl | inRest
    · refine ⟨position, here, ?_⟩
      exact standing.part [] token.text _ rfl
    · refine inductionHypothesis ?_ (standing.part first.text _ [] ?_) inRest
      · rwa [Int.natCast_add, ← Int.add_assoc]
      · rw [List.append_nil, List.flatMap_cons]

/-! ### Columns in a source -/

/-- The order in which the parts of a definition stand. -/
def kindOrder : List TokenKind :=
  [.dataType, .expression, .attributes, .comment, .trailingAttributes]

/-- A column tiles a source, whose positions count from a base: its definition stands in the source
and is the quoted name followed by the texts of the tokens; the tokens come in the order of their
kinds and follow one another; and each of them stands where it says. -/
structure Tiles (source : Text) (base : Int) (column : Column) : Prop where
  definition : ∃ position : Nat, Text.StandsAt source position column.definition ∧
    Consecutive (base + position + (Identifier.backquote column.name).length) column.tokens
  spelled : column.definition =
    Identifier.backquote column.name ++ column.tokens.flatMap Token.text
  ordered : (column.tokens.map Token.kind).Sublist kindOrder
  standing : ∀ token ∈ column.tokens,
    ∃ start : Nat, token.offset = base + start ∧ Text.StandsAt source start token.text

/-- The tokens of a column lie within its source, behind the quoted name. -/
theorem Tiles.within {source : Text} {base : Int} {column : Column}
    (tiles : column.Tiles source base) (token : Token) (member : token ∈ column.tokens) :
    base < token.offset ∧ token.offset ≤ base + source.length := by
  obtain ⟨position, _, consecutive⟩ := tiles.definition
  obtain ⟨start, offset, before, after, equal, length⟩ := tiles.standing token member
  have behind := consecutive.le_offset token member
  have named : (Identifier.backquote column.name).length =
      (Text.double '\x60' column.name).length + 2 := by
    rw [Identifier.backquote, List.length_append, List.length_cons, List.length_singleton]
  have inside := congrArg List.length equal
  rw [List.length_append, List.length_append] at inside
  omega

/-- The definition of a column is its quoted name and the texts of its tokens. -/
theorem definition_ofParts (offset : Int) (head : Head) (expression : Text) (tail : Tail)
    (spelled : Text.double '\x60' (Identifier.unquote head.name) = head.name) :
    (ofParts offset head expression tail).definition =
      Identifier.backquote (ofParts offset head expression tail).name ++
        (ofParts offset head expression tail).tokens.flatMap Token.text := by
  have name := Identifier.backquote_unquote head.name spelled
  simp only [ofParts, name, flatMap_text_tokensFrom, List.flatMap_cons, List.flatMap_nil,
    List.append_nil, List.append_assoc]

/-- The tokens of a column follow its quoted name. -/
theorem consecutive_ofParts (offset : Int) (head : Head) (expression : Text) (tail : Tail)
    (spelled : Text.double '\x60' (Identifier.unquote head.name) = head.name) :
    Consecutive (offset + head.before.length +
        (Identifier.backquote (ofParts offset head expression tail).name).length)
      (ofParts offset head expression tail).tokens := by
  have name := Identifier.backquote_unquote head.name spelled
  simp only [ofParts, name]
  exact consecutive_tokensFrom _ _

/-- A column tiles the source in which its definition stands behind the text before its head. -/
theorem tiles_ofParts (source : Text) (base : Int) (position : Nat) (head : Head)
    (expression : Text) (tail : Tail)
    (spelled : Text.double '\x60' (Identifier.unquote head.name) = head.name)
    (standing : Text.StandsAt source (position + head.before.length)
      (ofParts (base + position) head expression tail).definition) :
    (ofParts (base + position) head expression tail).Tiles source base := by
  have definition := definition_ofParts (base + position) head expression tail spelled
  have consecutive := consecutive_ofParts (base + position) head expression tail spelled
  rw [Int.add_assoc base, ← Int.natCast_add] at consecutive
  have ordered : ((ofParts (base + position) head expression tail).tokens.map Token.kind).Sublist
      kindOrder := kinds_tokensFrom _ _
  generalize ofParts (base + position) head expression tail = column at *
  refine ⟨⟨_, standing, consecutive⟩, definition, ordered, ?_⟩
  refine Consecutive.standsAt ?_ (standing.part (Identifier.backquote column.name) _ [] ?_)
  · rwa [Int.natCast_add, ← Int.add_assoc]
  · rw [List.append_nil, definition]

/-- A column that is read has a head in its fragment; its definition stands there from the head on,
and more text may follow. -/
theorem standing_of_parse? (offset : Int) (fragment : Text) (column : Column)
    (parsed : parse? offset fragment = some column) :
    ∃ head expression tail after, Head.find? fragment = some head ∧
      column = ofParts offset head expression tail ∧
      fragment = head.before ++ column.definition ++ after := by
  obtain ⟨head, found, closed⟩ := Option.bind_eq_some_iff.mp parsed
  obtain ⟨length, _, rfl⟩ := Option.map_eq_some_iff.mp closed
  obtain ⟨parts, _, _, _⟩ := Head.fits_of_find? fragment head found
  obtain ⟨after, tailParts⟩ := Tail.ofText_append (head.rest.drop length)
  refine ⟨head, _, _, after, found, rfl, ?_⟩
  generalize Tail.ofText (head.rest.drop length) = tail at tailParts ⊢
  calc fragment = head.before ++ ('\x60' :: head.name ++ ['\x60'] ++ head.dataType ++
        head.opening ++ (head.rest.take length ++ head.rest.drop length)) := by
          rw [List.take_append_drop, ← parts]
    _ = _ := by
          rw [tailParts]
          simp only [ofParts, List.append_assoc, List.cons_append]

/-- A column tiles the source of its fragment where the fragment stands in the source. -/
theorem tiles_of_parse? (source fragment : Text) (base : Int) (position : Nat) (column : Column)
    (standing : Text.StandsAt source position fragment)
    (parsed : parse? (base + position) fragment = some column) : column.Tiles source base := by
  obtain ⟨head, expression, tail, after, found, rfl, equal⟩ := standing_of_parse? _ _ _ parsed
  obtain ⟨_, spelled, _, _⟩ := Head.fits_of_find? fragment head found
  exact tiles_ofParts source base position head expression tail spelled
    (standing.part head.before _ after equal)

/-- The columns of a statement tile it, whatever the statement holds, and so does the column of a
single fragment; positions count from the given offset. -/
theorem tiles_of_mem_columns (offset : Int) (source : Text) :
    (∀ column ∈ TableBody.columns offset source, column.Tiles source offset) ∧
      ∀ column ∈ parse? offset source, column.Tiles source offset := by
  constructor
  · intro column member
    obtain ⟨fragment, inBody, parsed⟩ := List.mem_filterMap.mp member
    exact tiles_of_parse? source fragment.text offset fragment.offset column
      (TableBody.standsAt_of_mem_split source fragment inBody) parsed
  · intro column parsed
    refine tiles_of_parse? source source offset 0 column ⟨[], [], ?_, rfl⟩ ?_
    · rw [List.nil_append, List.append_nil]
    · rw [Int.natCast_zero, Int.add_zero]
      exact parsed

/-- The column of a statement that ends in the middle of a comment. -/
theorem tiles_of_mem_columns_unfinished :
    ∃ column ∈ TableBody.columns 7 "CREATE TABLE t (`a``b` int AS (1) STORED COMMENT 'x",
      column.Tiles "CREATE TABLE t (`a``b` int AS (1) STORED COMMENT 'x" 7 := by
  have one : (TableBody.columns 7
      "CREATE TABLE t (`a``b` int AS (1) STORED COMMENT 'x").length = 1 := by decide +kernel
  obtain ⟨column, member⟩ := List.exists_mem_of_length_pos (one ▸ Nat.one_pos)
  exact ⟨column, member, (tiles_of_mem_columns 7 _).1 column member⟩

end Column

end DumpRestore
