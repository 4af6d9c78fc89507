/-
This file proves what escapes do to the comment of a column. The readers that look for the end of an
expression and for the commas of a table body take a backslash in a literal as an escape of the
character behind it. The reader of a comment knows no escapes: for it a quote goes on only where it
is written twice. The two agree on a literal exactly if no backslash in it escapes its quote. Where
one does, the comment ends within the literal, and the rest of it is read as attributes.
-/

import DumpRestore.Proofs.Column.Reading
import DumpRestore.Proofs.Column.Rebuilt
import DumpRestore.Proofs.Table.Splitting

namespace DumpRestore

/-! ### Escaped quotes -/

namespace Nesting

/-- Whether an escape in the inside of a literal stands in front of the quote. -/
def escapesQuote (quote : Char) : Text → Bool
  | character :: next :: rest =>
    if escapes quote character then next == quote || escapesQuote quote rest
    else escapesQuote quote (next :: rest)
  | _ => false

theorem escapesQuote_escape (quote character next : Char) (rest : Text)
    (escaped : escapes quote character = true) :
    escapesQuote quote (character :: next :: rest) =
      (next == quote || escapesQuote quote rest) := by
  rw [escapesQuote, if_pos escaped]

theorem escapesQuote_plain (quote character : Char) (rest : Text)
    (unescaped : escapes quote character = false) :
    escapesQuote quote (character :: rest) = escapesQuote quote rest := by
  cases rest with
  | nil => rfl
  | cons next rest => rw [escapesQuote, unescaped, if_neg Bool.false_ne_true]

end Nesting

namespace TableBody.Enclosed

open Nesting

variable {quote : Char} {inside : Text}

/-- Characters that are neither the quote nor escapes may stand in a literal. -/
theorem of_all (plain : inside.all (fun character =>
    !escapes quote character && character != quote) = true) : Enclosed quote inside := by
  induction inside with
  | nil => exact .nil
  | cons character rest inductionHypothesis =>
    rw [List.all_cons, Bool.and_eq_true, Bool.and_eq_true, Bool.not_eq_true', bne_iff_ne] at plain
    exact .plain plain.1.1 plain.1.2 (inductionHypothesis plain.2)

/-- An escape is another character than the quote. -/
theorem ne_of_escapes {character : Char} (opens : isQuote quote = true)
    (escaped : escapes quote character = true) : character ≠ quote := by
  rintro rfl
  rw [escapes_self_of_isQuote character opens] at escaped
  cases escaped

/-- The inside of a literal does not start with half of a quote written twice. -/
theorem ne_cons_double (enclosed : Enclosed quote inside) (opens : isQuote quote = true)
    (content : Text) : inside ≠ quote :: Text.double quote content := by
  induction enclosed generalizing content with
  | nil => exact (List.cons_ne_nil _ _).symm
  | escape escaped _ _ => exact fun equal => ne_of_escapes opens escaped (List.cons.inj equal).1
  | doubled _ inductionHypothesis =>
    intro equal
    obtain ⟨further, _, behind⟩ :=
      (Text.double_eq_cons_self _ _ _).mp (List.cons.inj equal).2.symm
    exact inductionHypothesis further behind
  | plain _ other _ _ => exact fun equal => other (List.cons.inj equal).1

/-- The inside of a literal is a text with its quote written twice exactly if no escape stands in
front of the quote. -/
theorem exists_double_iff (enclosed : Enclosed quote inside) (opens : isQuote quote = true) :
    (∃ content, Text.double quote content = inside) ↔ escapesQuote quote inside = false := by
  induction enclosed with
  | nil => exact ⟨fun _ => rfl, fun _ => ⟨[], rfl⟩⟩
  | @escape character next rest escaped enclosed inductionHypothesis =>
    have other := ne_of_escapes opens escaped
    rw [escapesQuote_escape quote character next rest escaped, Bool.or_eq_false_iff,
      ← inductionHypothesis, beq_eq_false_iff_ne]
    constructor
    · rintro ⟨content, equal⟩
      obtain ⟨further, _, behind⟩ := (Text.double_eq_cons_of_ne _ _ _ _ other).mp equal
      have notQuote : next ≠ quote := by
        rintro rfl
        obtain ⟨last, _, half⟩ := (Text.double_eq_cons_self _ _ _).mp behind.symm
        exact enclosed.ne_cons_double opens last half
      obtain ⟨last, _, same⟩ := (Text.double_eq_cons_of_ne _ _ _ _ notQuote).mp behind.symm
      exact ⟨notQuote, last, same.symm⟩
    · rintro ⟨notQuote, content, rfl⟩
      exact ⟨character :: next :: content, by
        rw [Text.double_cons_of_ne _ _ _ other, Text.double_cons_of_ne _ _ _ notQuote]⟩
  | doubled _ inductionHypothesis =>
    have unescaped := escapes_self_of_isQuote quote opens
    rw [escapesQuote_plain quote quote _ unescaped, escapesQuote_plain quote quote _ unescaped,
      ← inductionHypothesis]
    constructor
    · rintro ⟨content, equal⟩
      obtain ⟨further, _, behind⟩ := (Text.double_eq_cons_self _ _ _).mp equal
      exact ⟨further, (List.cons.inj behind).2.symm⟩
    · rintro ⟨content, rfl⟩
      exact ⟨quote :: content, Text.double_cons_self quote content⟩
  | @plain character _ unescaped other _ inductionHypothesis =>
    rw [escapesQuote_plain quote character _ unescaped, ← inductionHypothesis]
    constructor
    · rintro ⟨content, equal⟩
      obtain ⟨further, _, behind⟩ := (Text.double_eq_cons_of_ne _ _ _ _ other).mp equal
      exact ⟨further, behind.symm⟩
    · rintro ⟨content, rfl⟩
      exact ⟨character :: content, Text.double_cons_of_ne quote character content other⟩

end TableBody.Enclosed

/-! ### The comment that is read -/

namespace Tail

/-- A literal is found in every text that holds its quote. -/
theorem exists_literalLength? (quote : Char) (text : Text) (member : quote ∈ text) :
    ∃ length, literalLength? quote text = some length := by
  fun_induction literalLength? quote text with
  | case1 => cases member
  | case2 | case3 | case4 | case5 => exact ⟨_, rfl⟩
  | case6 character rest other inductionHypothesis =>
    have inRest := (List.mem_cons.mp member).resolve_left fun same => other same.symm
    obtain ⟨length, found⟩ := inductionHypothesis inRest
    exact ⟨length + 1, by rw [found, Option.map_some]⟩

/-- A literal is read to its end exactly if its quote is written twice in it. -/
theorem take_literal_iff (quote : Char) (inside : Text) (length : Nat)
    (found : literalLength? quote (inside ++ [quote]) = some length) :
    (inside ++ [quote]).take length = inside ++ [quote] ↔
      ∃ content, Text.double quote content = inside := by
  constructor
  · intro whole
    obtain ⟨content, rest, equal, rfl⟩ := exists_double_of_literalLength? quote _ _ found
    have taken : (inside ++ [quote]).take ((Text.double quote content).length + 1) =
        Text.double quote content ++ [quote] := by
      rw [equal, List.append_cons]
      exact List.take_left' List.length_append
    exact ⟨content, List.append_cancel_right (taken.symm.trans whole)⟩
  · rintro ⟨content, rfl⟩
    rw [literalLength?_double quote content [] fun impossible => by cases impossible] at found
    cases found
    exact List.take_of_length_le (by rw [List.length_append]; rfl)

/-- The tail behind an expression that goes on with a comment: the comment is what is read as its
literal, and attributes may stand behind it. -/
theorem ofText_literal (text : Text) (length : Nat)
    (found : literalLength? '\'' text = some length) :
    ofText (" COMMENT '" ++ text) =
      { attributes := " "
        comment := "COMMENT '" ++ text.take length
        trailing := (Attributes.split (text.drop length)).1 } := by
  have onlyWords : Text.OnlyWords " COMMENT ".toList := Text.onlyWords_of_all _ rfl
  have stops : Attributes.runLength 0 ('\'' :: text) = 0 := by
    rw [Attributes.runLength]
    rfl
  have cut : Attributes.split (" COMMENT '" ++ text) = (" COMMENT ".toList, '\'' :: text) :=
    (Attributes.Whole.words _ onlyWords).split_append ('\'' :: text) stops
  have before : beforeComment? " COMMENT ".toList = some 1 := rfl
  have literal : commentLiteralLength? ('\'' :: text) = some (length + 1) := by
    have isQuote : isCommentQuote '\'' = true := rfl
    rw [commentLiteralLength?, if_pos isQuote, found, Option.map_some]
  unfold ofText
  rw [cut]
  dsimp only
  rw [before, literal]
  rfl

end Tail

namespace Column

section Commented

variable (offset : Int) (name text : Text) (length : Nat)
  (found : Tail.literalLength? '\'' text = some length)

include found

theorem comment_constant :
    (constant offset name (" COMMENT '" ++ text)).tokenText? .comment =
      some ("COMMENT '" ++ text.take length) := by
  rw [constant, Tail.ofText_literal text length found, tokenText?_ofParts]
  rfl

theorem trailing_constant :
    (constant offset name (" COMMENT '" ++ text)).tokenText? .trailingAttributes =
      (some (Attributes.split (text.drop length)).1).filter fun trailing => !trailing.isEmpty := by
  rw [constant, Tail.ofText_literal text length found, tokenText?_ofParts]
  cases (Attributes.split (text.drop length)).1 <;> rfl

/-- What stands behind the comment says how values are kept. -/
theorem isVirtual_constant :
    (constant offset name (" COMMENT '" ++ text)).isVirtual = Attributes.declareVirtual
      (((constant offset name (" COMMENT '" ++ text)).tokenText? .trailingAttributes).getD []) := by
  rw [trailing_constant offset name text length found, constant,
    Tail.ofText_literal text length found, isVirtual_ofParts _ _ _ _
      (.words _ (Text.onlyWords_blank ' ' rfl)) (Attributes.whole_split _)]
  cases (Attributes.split (text.drop length)).1 <;> rfl

end Commented

/-- A column of integers with a comment in apostrophes, in whose inside a backslash may escape the
next character, is read whatever the inside is, and the attributes behind its comment alone say how
its values are kept. The comment is read to its end, with no attributes behind it, and the column is
virtual, exactly if no backslash in the comment escapes an apostrophe. -/
theorem comment_whole_iff (offset : Int) (name inside : Text) (nonempty : name ≠ [])
    (enclosed : TableBody.Enclosed '\'' inside) :
    ∃ column, parse? offset
        (Identifier.backquote name ++ " int AS (1) COMMENT '" ++ inside ++ "'") = some column ∧
      column.name = name ∧
      column.isVirtual =
        Attributes.declareVirtual ((column.tokenText? .trailingAttributes).getD []) ∧
      ((column.isVirtual = true ∧
          column.tokenText? .comment = some ("COMMENT '" ++ inside ++ "'") ∧
          column.tokenText? .trailingAttributes = none) ↔
        Nesting.escapesQuote '\'' inside = false) := by
  have source : Identifier.backquote name ++ " int AS (1) COMMENT '" ++ inside ++ "'" =
      Identifier.backquote name ++ " int AS (1)" ++ (" COMMENT '" ++ (inside ++ ['\''])) := by
    simp only [List.append_assoc]
    rfl
  obtain ⟨length, found⟩ := Tail.exists_literalLength? '\'' (inside ++ ['\''])
    (List.mem_append_right inside (List.mem_singleton_self _))
  have storage := isVirtual_constant offset name (inside ++ ['\'']) length found
  have parsed := parse?_constant offset name (" COMMENT '" ++ (inside ++ ['\''])) nonempty
  rw [← source] at parsed
  refine ⟨_, parsed, name_constant offset name _, storage, ?_⟩
  rw [storage, comment_constant offset name _ length found,
    trailing_constant offset name _ length found, ← enclosed.exists_double_iff rfl,
    ← Tail.take_literal_iff '\'' inside length found]
  constructor
  · rintro ⟨_, comment, _⟩
    have whole := Option.some.inj comment
    rw [List.append_assoc] at whole
    exact List.append_cancel_left whole
  · intro whole
    have cut := List.take_append_drop length (inside ++ ['\''])
    rw [whole] at cut
    rw [whole, List.append_right_eq_self.mp cut, List.append_assoc]
    exact ⟨rfl, rfl, rfl⟩

/-- A comment with an escaped backslash and an apostrophe written twice is read to its end. -/
theorem comment_whole_escapedBackslash :
    ∃ column, parse? 5 (Identifier.backquote "a`b" ++ " int AS (1) COMMENT '" ++ "\\\\''x" ++ "'") =
        some column ∧
      column.isVirtual = true ∧ column.tokenText? .comment = some "COMMENT '\\\\''x'".toList ∧
      column.tokenText? .trailingAttributes = none := by
  have enclosed : TableBody.Enclosed '\'' "\\\\''x" :=
    .escape rfl (.doubled (.plain rfl (by decide) .nil))
  obtain ⟨column, parsed, _, _, exactly⟩ :=
    comment_whole_iff 5 "a`b" "\\\\''x" (List.cons_ne_nil _ _) enclosed
  exact ⟨column, parsed, exactly.mpr rfl⟩

/-- Behind an escaped apostrophe, a word of a comment makes the column a stored one. -/
theorem not_comment_whole_escapedApostrophe :
    TableBody.Enclosed '\'' "it\\'s STORED" ∧
      ∃ column, parse? 0 ("`a` int AS (1) COMMENT 'it\\'s STORED'") = some column ∧
        column.isVirtual = false ∧ column.tokenText? .comment = some "COMMENT 'it\\'".toList ∧
        column.tokenText? .trailingAttributes = some "s STORED".toList := by
  have plain : TableBody.Enclosed '\'' "s STORED" := .of_all rfl
  refine ⟨.plain rfl (by decide) (.plain rfl (by decide) (.escape rfl plain)),
    { definition := "`a` int AS (1) COMMENT 'it\\'s STORED", name := "a", isVirtual := false
      tokens := [⟨.dataType, " int ", 3⟩, ⟨.expression, "AS (1)", 8⟩, ⟨.attributes, " ", 14⟩,
        ⟨.comment, "COMMENT 'it\\'", 15⟩, ⟨.trailingAttributes, "s STORED", 28⟩] }, ?_⟩
  exact ⟨by decide +kernel, rfl, rfl, rfl⟩

end Column

end DumpRestore
