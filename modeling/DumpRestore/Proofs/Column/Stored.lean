/-
This file describes how a stored definition is put together. Its parts are collapsed, none of them
is empty, and STORED is one of them where no other part says that values are stored. For a column
that has been read the definition is its quoted name followed by the words of its parts, a space in
front of each.
-/

import DumpRestore.Column.Parse
import DumpRestore.Proofs.Column.Storage
import DumpRestore.Proofs.Column.Tokens
import DumpRestore.Proofs.Text.Respacing

namespace DumpRestore

namespace Column

/-! ### Parts -/

/-- Inserting STORED leaves all other parts in place. -/
theorem perm_insertStored (parts : List Part) :
    (insertStored parts).Perm ((TokenKind.attributes, "STORED") :: parts) := by
  induction parts with
  | nil => exact List.Perm.refl _
  | cons first parts inductionHypothesis =>
    rw [insertStored]
    split
    · exact List.Perm.swap _ first parts
    · exact (inductionHypothesis.cons first).trans (List.Perm.swap _ first parts)

/-- The parts that the tokens of a column become are parts of its stored definition. -/
theorem mem_storedParts (column : Column) (support : ColumnSupport) (token : Token)
    (member : token ∈ column.tokens)
    (nonempty : (storedPart column.isVirtual support token).2 ≠ []) :
    storedPart column.isVirtual support token ∈ column.storedParts support := by
  have kept : storedPart column.isVirtual support token ∈
      (column.tokens.map (storedPart column.isVirtual support)).filter fun part =>
        !part.2.isEmpty := by
    refine List.mem_filter.mpr ⟨List.mem_map_of_mem member, ?_⟩
    rw [List.isEmpty_eq_false_iff.mpr nonempty, Bool.not_false]
  rw [storedParts]
  split
  · exact kept
  · exact (perm_insertStored _).mem_iff.mpr (List.mem_cons_of_mem _ kept)

/-- The parts of a stored definition are collapsed, and none of them is empty. -/
theorem collapsed_of_mem_storedParts (column : Column) (support : ColumnSupport) (part : Part)
    (member : part ∈ column.storedParts support) :
    (∃ text, part.2 = Text.collapse text) ∧ part.2 ≠ [] := by
  have kept (inKept : part ∈ (column.tokens.map (storedPart column.isVirtual support)).filter
      fun part => !part.2.isEmpty) : (∃ text, part.2 = Text.collapse text) ∧ part.2 ≠ [] := by
    obtain ⟨inMap, nonempty⟩ := List.mem_filter.mp inKept
    obtain ⟨token, _, rfl⟩ := List.mem_map.mp inMap
    exact ⟨⟨_, rfl⟩, List.isEmpty_eq_false_iff.mp ((Bool.not_eq_true' _).mp nonempty)⟩
  rw [storedParts] at member
  split at member
  · exact kept member
  · rcases List.mem_cons.mp ((perm_insertStored _).mem_iff.mp member) with rfl | inKept
    · exact ⟨⟨"STORED", by decide⟩, by decide⟩
    · exact kept inKept

theorem storedParts_ne_nil (column : Column) (support : ColumnSupport) :
    column.storedParts support ≠ [] := by
  rw [storedParts]
  split
  · rename_i declares
    intro empty
    rw [empty] at declares
    cases declares
  · exact fun empty => List.cons_ne_nil _ _ (empty ▸ perm_insertStored _).nil_eq.symm

/-- A stored definition is the quoted name and its parts with a space in front of each. -/
theorem storedDefinition_eq (column : Column) (support : ColumnSupport) :
    column.storedDefinition support = Identifier.backquote column.name ++
      ' ' :: Text.join " " ((column.storedParts support).map Prod.snd) := by
  obtain ⟨first, parts, equal⟩ := List.exists_cons_of_ne_nil (storedParts_ne_nil column support)
  rw [storedDefinition, equal, List.map_cons, Text.join_cons_cons, List.append_assoc]
  rfl

theorem singleSpaced_storedParts (column : Column) (support : ColumnSupport) :
    Text.SingleSpaced (Text.join " " ((column.storedParts support).map Prod.snd)) := by
  have collapsed : ∀ text ∈ (column.storedParts support).map Prod.snd,
      (Text.Trimmed text ∧ text ≠ []) ∧ Text.squeeze text = text := by
    intro text member
    obtain ⟨part, inParts, rfl⟩ := List.mem_map.mp member
    obtain ⟨⟨source, equal⟩, nonempty⟩ := collapsed_of_mem_storedParts column support part inParts
    rw [equal] at nonempty ⊢
    exact ⟨⟨Text.trimmed_collapse source, nonempty⟩, Text.squeeze_collapse source⟩
  have squeezed : ((column.storedParts support).map Prod.snd).map Text.squeeze =
      (column.storedParts support).map Prod.snd :=
    (List.map_congr_left fun text member => (collapsed text member).2).trans (List.map_id _)
  rw [← Text.squeeze_eq_self_iff, Text.squeeze_join _ fun text member => (collapsed text member).1,
    squeezed]

/-! ### The parts of a column that has been read -/

/-- The text that a part of a column is rebuilt from: rewritten where it holds attributes. -/
def storedText (isVirtual : Bool) (support : ColumnSupport) (part : Part) : Text :=
  if part.1.holdsAttributes then storedAttributes isVirtual support part.2 else part.2

/-- STORED, where neither of two attribute texts says that values are stored. -/
def storedMark (first second : Text) : List Text :=
  if Attributes.declareStorage first || Attributes.declareStorage second then []
  else [("STORED" : Text)]

/-- Parts that are empty make no difference to what tokens become. -/
theorem filter_storedPart_tokensFrom (isVirtual : Bool) (support : ColumnSupport) (offset : Int)
    (parts : List Part) :
    ((tokensFrom offset parts).map (storedPart isVirtual support)).filter (!·.2.isEmpty) =
      (parts.map fun part => (part.1, Text.collapse (storedText isVirtual support part))).filter
        (!·.2.isEmpty) := by
  induction parts generalizing offset with
  | nil => rfl
  | cons part parts inductionHypothesis =>
    obtain ⟨kind, text⟩ := part
    rw [tokensFrom_cons]
    split
    · rename_i empty
      have nothing : Text.collapse (storedText isVirtual support (kind, text)) = [] := by
        rw [List.isEmpty_iff.mp empty, storedText, storedAttributes_nil, ite_self]
        rfl
      rw [inductionHypothesis, List.map_cons, List.filter_cons, nothing]
      rfl
    · rw [List.map_cons, List.map_cons, List.filter_cons, List.filter_cons, inductionHypothesis]
      rfl

theorem declareStorage_collapse (attributes : Text) (whole : Attributes.Whole attributes) :
    Attributes.declareStorage (Text.collapse attributes) =
      Attributes.declareStorage attributes :=
  congrArg₂ or (Attributes.say_collapse "stored" attributes whole)
    (Attributes.say_collapse "persistent" attributes whole)

theorem map_filter_nonempty (parts : List Part) :
    (parts.filter (!·.2.isEmpty)).map Prod.snd = (parts.map Prod.snd).filter (!·.isEmpty) := by
  rw [List.filter_map]
  rfl

theorem flatMap_words_storedMark (first second : Text) :
    (storedMark first second).flatMap Text.words = storedMark first second := by
  rw [storedMark]
  split
  · rfl
  · decide

/-- STORED stands behind the expression. -/
theorem map_insertStored (dataType expression : Text) (parts : List Part)
    (nonempty : expression ≠ []) :
    (insertStored (((TokenKind.dataType, dataType) :: (TokenKind.expression, expression) ::
        parts).filter (!·.2.isEmpty))).map Prod.snd =
      (dataType :: expression :: ("STORED" : Text) :: parts.map Prod.snd).filter (!·.isEmpty) := by
  have kept : (!expression.isEmpty) = true := by
    rw [List.isEmpty_eq_false_iff.mpr nonempty, Bool.not_false]
  have behind (others : List Part) : insertStored ((.expression, expression) :: others) =
      (.expression, expression) :: (.attributes, "STORED") :: others := by
    rw [insertStored, if_pos rfl]
  have inFront (others : List Part) : insertStored ((.dataType, dataType) :: others) =
      (.dataType, dataType) :: insertStored others := by
    rw [insertStored, if_neg fun impossible => by cases impossible]
  have tail : ((expression :: ("STORED" : Text) :: parts.map Prod.snd)).filter (!·.isEmpty) =
      expression :: ("STORED" : Text) :: (parts.filter (!·.2.isEmpty)).map Prod.snd := by
    rw [List.filter_cons, if_pos kept, List.filter_cons, if_pos (by decide), map_filter_nonempty]
  rw [List.filter_cons, List.filter_cons, if_pos kept, List.filter_cons, tail]
  dsimp only
  split
  · rw [inFront, behind]
    rfl
  · rw [behind]
    rfl

section Read

variable (offset : Int) (head : Head) (expression : Text) (tail : Tail) (support : ColumnSupport)

/-- The texts of the parts of a stored definition. -/
theorem map_storedParts_ofParts (isVirtual : Bool)
    (actual : (ofParts offset head expression tail).isVirtual = isVirtual)
    (nonblank : Text.collapse expression ≠ []) (whole : Attributes.Whole tail.attributes)
    (trailingWhole : Attributes.Whole tail.trailing) :
    ((ofParts offset head expression tail).storedParts support).map Prod.snd =
      (([head.dataType, expression] ++
          storedMark (storedAttributes isVirtual support tail.attributes)
            (storedAttributes isVirtual support tail.trailing) ++
          [storedAttributes isVirtual support tail.attributes, tail.comment,
            storedAttributes isVirtual support tail.trailing]).map Text.collapse).filter
        (!·.isEmpty) := by
  have declares (attributes : Text) (attributesWhole : Attributes.Whole attributes) :
      (!(Text.collapse (storedAttributes isVirtual support attributes)).isEmpty &&
        Attributes.declareStorage (Text.collapse (storedAttributes isVirtual support attributes))) =
      Attributes.declareStorage (storedAttributes isVirtual support attributes) := by
    rw [← declareStorage_collapse _ (whole_storedAttributes isVirtual support _ attributesWhole)]
    cases Text.collapse (storedAttributes isVirtual support attributes) with
    | nil => rfl
    | cons character rest => rfl
  let texts : List Part := [
    (.dataType, Text.collapse head.dataType), (.expression, Text.collapse expression),
    (.attributes, Text.collapse (storedAttributes isVirtual support tail.attributes)),
    (.comment, Text.collapse tail.comment),
    (.trailingAttributes, Text.collapse (storedAttributes isVirtual support tail.trailing))]
  have parts : ((ofParts offset head expression tail).tokens.map
      (storedPart isVirtual support)).filter (!·.2.isEmpty) = texts.filter (!·.2.isEmpty) :=
    filter_storedPart_tokensFrom isVirtual support _ _
  have declared : (texts.filter (!·.2.isEmpty)).any declaresStorage =
      (Attributes.declareStorage (storedAttributes isVirtual support tail.attributes) ||
        Attributes.declareStorage (storedAttributes isVirtual support tail.trailing)) := by
    simp only [texts, List.any_filter, List.any_cons, List.any_nil, declaresStorage,
      TokenKind.holdsAttributes, Bool.false_and, Bool.and_false, Bool.true_and, Bool.false_or,
      Bool.or_false, declares _ whole, declares _ trailingWhole]
  have inserted := map_insertStored (Text.collapse head.dataType) (Text.collapse expression)
    (texts.drop 2) nonblank
  rw [storedParts, actual]
  rw [parts, declared, storedMark]
  split
  · exact map_filter_nonempty texts
  · exact inserted

/-- A stored definition is the quoted name and the words of its parts, a space in front of each. -/
theorem storedDefinition_ofParts (isVirtual : Bool)
    (actual : (ofParts offset head expression tail).isVirtual = isVirtual)
    (nonblank : Text.collapse expression ≠ []) (whole : Attributes.Whole tail.attributes)
    (trailingWhole : Attributes.Whole tail.trailing) :
    (ofParts offset head expression tail).storedDefinition support =
      Identifier.backquote (Identifier.unquote head.name) ++
        Text.spread (Text.words head.dataType ++ Text.words expression ++
          storedMark (storedAttributes isVirtual support tail.attributes)
            (storedAttributes isVirtual support tail.trailing) ++
          Text.words (storedAttributes isVirtual support tail.attributes) ++
          Text.words tail.comment ++
          Text.words (storedAttributes isVirtual support tail.trailing)) := by
  have texts := map_storedParts_ofParts offset head expression tail support isVirtual actual nonblank
    whole trailingWhole
  have nonempty : ((ofParts offset head expression tail).storedParts support).map Prod.snd ≠ [] :=
    fun empty => storedParts_ne_nil _ support (List.map_eq_nil_iff.mp empty)
  rw [storedDefinition_eq, ← Text.spread_of_ne_nil _ nonempty, texts, Text.spread_collapse]
  simp only [List.flatMap_append, List.flatMap_cons, List.flatMap_nil, flatMap_words_storedMark,
    List.append_nil, List.append_assoc]
  rfl

end Read

end Column

end DumpRestore
