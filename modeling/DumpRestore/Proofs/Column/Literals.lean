/-
This file says what becomes of the literals of a generated column where its definition is rebuilt.
Tokens are copied with a single space in the place of every run of blanks, and no exception is made
for blanks in quotes. Every literal of the expression, of the comment and of a group among the
attributes therefore stands in the rebuilt definition with its blanks collapsed, and it stands
there as it was exactly if it had no blanks but single spaces.
-/

import DumpRestore.Column.Parse
import DumpRestore.Proofs.Column.Nesting
import DumpRestore.Proofs.Column.Stored

namespace DumpRestore

/-! ### Literals -/

/-- A stretch from one quote to another of the same kind, both included. -/
def Nesting.Quoted (literal : Text) : Prop :=
  ∃ quote inside, isQuote quote = true ∧ literal = quote :: inside ++ [quote]

theorem Nesting.Quoted.trimmed {literal : Text} (quoted : Quoted literal) :
    Text.Trimmed literal := by
  obtain ⟨quote, inside, isQuote, rfl⟩ := quoted
  have visible := isBlank_of_isQuote quote isQuote
  constructor
  · intro character member
    cases member
    exact visible
  · intro character member
    rw [List.getLast?_concat] at member
    cases member
    exact visible

theorem Nesting.Quoted.ne_nil {literal : Text} (quoted : Quoted literal) : literal ≠ [] := by
  obtain ⟨quote, inside, _, rfl⟩ := quoted
  exact List.cons_ne_nil quote _

/-- A part of a text that neither starts nor ends with a blank is collapsed where it stands. -/
theorem Text.isInfix_collapse {part text : Text} (trimmed : Trimmed part) (nonempty : part ≠ [])
    (stands : part <:+: text) : collapse part <:+: collapse text := by
  obtain ⟨before, after, rfl⟩ := stands
  rw [collapse_append_trimmed before part after trimmed nonempty]
  exact List.infix_append _ _ _

theorem Text.isInfix_join (separator text : Text) (texts : List Text) (member : text ∈ texts) :
    text <:+: join separator texts := by
  induction texts with
  | nil => cases member
  | cons first texts inductionHypothesis =>
    cases texts with
    | nil =>
      rw [List.mem_singleton.mp member]
      exact List.infix_rfl
    | cons second texts =>
      rw [join_cons_cons]
      rcases List.mem_cons.mp member with rfl | inRest
      · exact (List.prefix_append_of_prefix (List.prefix_append text separator)).isInfix
      · exact (inductionHypothesis inRest).trans (List.suffix_append _ _).isInfix

/-! ### Groups -/

/-- Rewriting what stands between the groups of a text leaves the groups in it. -/
theorem Attributes.isInfix_mapBare (rewrite : Text → Text) (text group : Text)
    (member : Piece.group group ∈ Piece.ofText text) : group <:+: mapBare rewrite text := by
  rw [mapBare, Piece.toText, List.flatMap_def]
  refine List.infix_of_mem_flatten (List.mem_map.mpr ⟨.group group, ?_, rfl⟩)
  exact List.mem_map.mpr ⟨.group group, member, rfl⟩

namespace Column

/-! ### What is copied -/

/-- What a column is rebuilt from without being rewritten: stretches of the tokens that hold no
attributes, and stretches of the groups of those that do. -/
inductive Copies (column : Column) (stretch : Text) : Prop
  | ofToken (token : Token) (member : token ∈ column.tokens)
      (plain : token.kind.holdsAttributes = false) (stands : stretch <:+: token.text)
  | ofGroup (token : Token) (member : token ∈ column.tokens)
      (holds : token.kind.holdsAttributes = true) (group : Text)
      (isGroup : .group group ∈ Attributes.Piece.ofText token.text) (stands : stretch <:+: group)

/-- A copied stretch without blanks at its ends stands collapsed in the stored definition. -/
theorem Copies.isInfix_join {column : Column} {stretch : Text} (copied : column.Copies stretch)
    (support : ColumnSupport) (trimmed : Text.Trimmed stretch) (nonempty : stretch ≠ []) :
    Text.collapse stretch <:+: Text.join " " ((column.storedParts support).map Prod.snd) := by
  obtain ⟨token, member, stands⟩ : ∃ token ∈ column.tokens,
      Text.collapse stretch <:+: (storedPart column.isVirtual support token).2 := by
    cases copied with
    | ofToken token member plain stands =>
      refine ⟨token, member, ?_⟩
      rw [storedPart, plain, if_neg Bool.false_ne_true]
      exact Text.isInfix_collapse trimmed nonempty stands
    | ofGroup token member holds group isGroup stands =>
      refine ⟨token, member, ?_⟩
      rw [storedPart, holds, if_pos rfl]
      exact Text.isInfix_collapse trimmed nonempty
        (stands.trans (Attributes.isInfix_mapBare _ token.text group isGroup))
  have visible : Text.collapse stretch ≠ [] := by
    obtain ⟨first, rest, rfl, firstVisible⟩ := trimmed.exists_cons nonempty
    rw [Text.collapse_of_trimmed _ trimmed, Text.squeeze_cons_visible first rest firstVisible]
    exact List.cons_ne_nil _ _
  have partNonempty : (storedPart column.isVirtual support token).2 ≠ [] := fun empty =>
    visible (List.infix_nil.mp (empty ▸ stands))
  exact stands.trans (Text.isInfix_join " " _ _
    (List.mem_map_of_mem (mem_storedParts column support token member partNonempty)))

/-- Every literal of a token without attributes, such as the expression or the comment, and of a
group among the attributes stands behind the name of the stored definition with its blanks
collapsed. It stands there as it is exactly if its blanks are single spaces. -/
theorem storedDefinition_literal (column : Column) (support : ColumnSupport) (literal : Text)
    (quoted : Nesting.Quoted literal) (copied : column.Copies literal) :
    ∃ rebuilt, column.storedDefinition support =
        Identifier.backquote column.name ++ ' ' :: rebuilt ∧
      Text.collapse literal <:+: rebuilt ∧
      (literal <:+: rebuilt ↔ Text.SingleSpaced literal) := by
  have stands := copied.isInfix_join support quoted.trimmed quoted.ne_nil
  refine ⟨_, storedDefinition_eq column support, stands,
    fun unchanged => (singleSpaced_storedParts column support).of_isInfix unchanged,
    fun single => ?_⟩
  rwa [Text.collapse_of_trimmed literal quoted.trimmed,
    (Text.squeeze_eq_self_iff literal).mpr single] at stands

/-- A literal in the body of a CHECK. -/
theorem storedDefinition_literal_check :
    ∃ column rebuilt,
      parse? 0 "`a` varchar(9) AS ('x') STORED CHECK (`a` <> 'y z')" = some column ∧
      Nesting.Quoted "'y z'" ∧ column.Copies "'y z'" ∧
      column.storedDefinition ⟨true, true, true, true⟩ =
        Identifier.backquote column.name ++ ' ' :: rebuilt ∧
      Text.collapse "'y z'" <:+: rebuilt ∧
      ("'y z'".toList <:+: rebuilt ↔ Text.SingleSpaced "'y z'") := by
  let column : Column :=
    { definition := "`a` varchar(9) AS ('x') STORED CHECK (`a` <> 'y z')"
      name := "a"
      isVirtual := false
      tokens := [⟨.dataType, " varchar(9) ", 3⟩, ⟨.expression, "AS ('x')", 15⟩,
        ⟨.attributes, " STORED CHECK (`a` <> 'y z')", 23⟩] }
  have quoted : Nesting.Quoted "'y z'" := ⟨'\'', "y z".toList, rfl, rfl⟩
  have copied : column.Copies "'y z'" := by
    refine .ofGroup ⟨.attributes, " STORED CHECK (`a` <> 'y z')", 23⟩ (by decide) rfl
      "(`a` <> 'y z')" (by decide +kernel) ?_
    exact ⟨"(`a` <> ".toList, ")".toList, rfl⟩
  obtain ⟨rebuilt, facts⟩ :=
    storedDefinition_literal column ⟨true, true, true, true⟩ "'y z'" quoted copied
  exact ⟨column, rebuilt, by decide +kernel, quoted, copied, facts⟩

/-- Two blanks in a literal of an expression do not stay. -/
theorem storedDefinition_literal_blanks :
    ∃ column, parse? 0 "`a` varchar(9) AS ('x  y') STORED" = some column ∧
      Nesting.Quoted "'x  y'" ∧ column.Copies "'x  y'" ∧
      ¬ "'x  y'".toList <:+: column.storedDefinition ⟨true, true, true, true⟩ := by
  refine ⟨{ definition := "`a` varchar(9) AS ('x  y') STORED", name := "a", isVirtual := false,
            tokens := [⟨.dataType, " varchar(9) ", 3⟩, ⟨.expression, "AS ('x  y')", 15⟩,
              ⟨.attributes, " STORED", 26⟩] }, by decide +kernel, ?_, ?_, by decide +kernel⟩
  · exact ⟨'\'', "x  y".toList, rfl, rfl⟩
  · exact .ofToken ⟨.expression, "AS ('x  y')", 15⟩ (by decide) rfl
      ⟨"AS (".toList, ")".toList, rfl⟩

end Column

end DumpRestore
