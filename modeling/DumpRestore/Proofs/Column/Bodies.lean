/-
This file proves how deep the groups in the body of a CHECK may nest. The expression of a column is
read to its closing parenthesis at any depth. A group among the attributes is read by a grammar that
spells out two levels, the group itself and one more inside it. A body whose own groups nest deeper
is not read at all: the attributes end in front of its parenthesis, and the rebuilt column ends with
the keyword.
-/

import DumpRestore.Proofs.Column.Reading
import DumpRestore.Proofs.Column.Rebuilt

namespace DumpRestore

/-! ### Bodies -/

/-- What may stand in the parentheses of a group: characters other than parentheses and quotes, and
groups of the same. -/
inductive GroupBody where
  | nil
  | mark (character : Char) (plain : character ∉ ['(', ')', '\'', '"']) (rest : GroupBody)
  | group (inside rest : GroupBody)

namespace GroupBody

/-- The body as it is written. -/
def text : GroupBody → Text
  | nil => []
  | mark character _ rest => character :: rest.text
  | group inside rest => '(' :: (inside.text ++ ')' :: rest.text)

/-- How many groups stand one in the other. -/
def depth : GroupBody → Nat
  | nil => 0
  | mark _ _ rest => rest.depth
  | group inside rest => max (inside.depth + 1) rest.depth

/-- The group that the reader takes for one: the body in its parentheses, and nothing where the
groups of the body have further groups in them. -/
def kept (body : GroupBody) : Text :=
  if body.depth ≤ 1 then '(' :: (body.text ++ [')']) else []

end GroupBody

/-! ### How deep the reader goes -/

namespace Attributes

theorem placeAfter?_mark (character : Char) (plain : character ∉ ['(', ')', '\'', '"']) :
    placeAfter? .direct character = some .direct ∧ placeAfter? .inner character = some .inner := by
  simp only [List.mem_cons, List.not_mem_nil, or_false, not_or] at plain
  obtain ⟨notOpen, notClose, notApostrophe, notQuotation⟩ := plain
  simp only [placeAfter?, notOpen, notClose, notApostrophe, notQuotation, or_self, if_false,
    and_self]

/-- In the inner parentheses a body is passed over where it has no groups. -/
theorem closingLength?_inner (body : GroupBody) (rest : Text) :
    closingLength? .inner (body.text ++ ')' :: rest) =
      if body.depth = 0 then (closingLength? .direct rest).map (· + (body.text.length + 1))
      else none := by
  induction body with
  | nil => exact closingLength?_cons .inner .direct ')' rest rfl
  | mark character plain others inductionHypothesis =>
    rw [GroupBody.text, List.cons_append,
      closingLength?_cons .inner .inner character _ (placeAfter?_mark character plain).2,
      inductionHypothesis, GroupBody.depth]
    split
    · rw [Option.map_map]
      rfl
    · rfl
  | group inside others _ _ =>
    have nested : ¬ (GroupBody.group inside others).depth = 0 := by
      rw [GroupBody.depth]
      omega
    rw [if_neg nested]
    rfl

/-- Directly in a group a body is passed over where its groups have no further groups in them. -/
theorem closingLength?_direct (body : GroupBody) (rest : Text) :
    closingLength? .direct (body.text ++ rest) =
      if body.depth ≤ 1 then (closingLength? .direct rest).map (· + body.text.length)
      else none := by
  induction body with
  | nil => exact Option.map_id'.symm
  | mark character plain others inductionHypothesis =>
    rw [GroupBody.text, List.cons_append,
      closingLength?_cons .direct .direct character _ (placeAfter?_mark character plain).1,
      inductionHypothesis, GroupBody.depth]
    split
    · rw [Option.map_map]
      rfl
    · rfl
  | group inside others _ inductionHypothesis =>
    have levels : (GroupBody.group inside others).depth ≤ 1 ↔
        inside.depth = 0 ∧ others.depth ≤ 1 := by
      rw [GroupBody.depth]
      omega
    -- The inner reader takes the inside of the group; behind it the reader stands as it did before.
    rw [GroupBody.text, List.cons_append, List.append_assoc, List.cons_append,
      closingLength?_cons .direct .inner '(' _ rfl, closingLength?_inner, inductionHypothesis]
    by_cases flat : inside.depth = 0
    · rw [if_pos flat]
      by_cases shallow : others.depth ≤ 1
      · have counted (length : Nat) : length + others.text.length + (inside.text.length + 1) + 1 =
            length + ('(' :: (inside.text ++ ')' :: others.text)).length := by
          simp only [List.length_cons, List.length_append]
          omega
        rw [if_pos shallow, if_pos (levels.mpr ⟨flat, shallow⟩), Option.map_map, Option.map_map]
        exact congrArg (Option.map · _) (funext counted)
      · rw [if_neg shallow, if_neg fun both => shallow (levels.mp both).2]
        rfl
    · rw [if_neg flat, if_neg fun both => flat (levels.mp both).1]
      rfl

/-- A body with its closing parenthesis ends a group exactly if its own groups nest one level deep
at most. -/
theorem closes_body_iff (body : GroupBody) :
    Closes .direct (body.text ++ [')']) ↔ body.depth ≤ 1 := by
  rw [Closes, closingLength?_direct, List.length_append]
  split
  · rename_i shallow
    exact iff_of_true (congrArg some (Nat.add_comm 1 _)) shallow
  · rename_i deep
    exact iff_of_false (fun impossible => by cases impossible) deep

/-- The attributes that are read where a CHECK with a body follows an expression. -/
def withCheck (body : GroupBody) : Text :=
  " STORED CHECK " ++ body.kept

theorem onlyWords_check : Text.OnlyWords " STORED CHECK " :=
  Text.onlyWords_of_all _ rfl

/-- The words in front of a body are cut behind the last blank. -/
theorem check_parentheses (text : Text) :
    (" STORED CHECK (" : Text) ++ text ++ ")" = " STORED CHECK " ++ '(' :: (text ++ [')']) := by
  have opening : (" STORED CHECK (" : Text) = " STORED CHECK " ++ ['('] := by simp
  rw [opening, List.append_assoc, List.append_assoc]
  rfl

theorem withCheck_of_shallow (body : GroupBody) (shallow : body.depth ≤ 1) :
    withCheck body = " STORED CHECK (" ++ body.text ++ ")" := by
  unfold withCheck GroupBody.kept
  rw [if_pos shallow, check_parentheses]

theorem withCheck_of_deep (body : GroupBody) (deep : ¬ body.depth ≤ 1) :
    withCheck body = " STORED CHECK " := by
  unfold withCheck GroupBody.kept
  rw [if_neg deep, List.append_nil]

/-- The attributes are read to their end exactly if the body is kept. -/
theorem withCheck_eq_iff (body : GroupBody) :
    withCheck body = " STORED CHECK (" ++ body.text ++ ")" ↔ body.depth ≤ 1 := by
  refine ⟨fun whole => ?_, withCheck_of_shallow body⟩
  by_contra deep
  have lengths := congrArg List.length ((withCheck_of_deep body deep).symm.trans whole)
  simp at lengths

theorem whole_withCheck (body : GroupBody) : Whole (withCheck body) := by
  unfold withCheck GroupBody.kept
  split
  · rename_i shallow
    have whole := Whole.group _ _ [] onlyWords_check ((closes_body_iff body).mpr shallow) whole_nil
    rwa [List.append_nil] at whole
  · rw [List.append_nil]
    exact .words _ onlyWords_check

/-- What a body says is no keyword of the attributes. -/
theorem say_withCheck (keyword : Text) (body : GroupBody) :
    say keyword (withCheck body) = Text.hasWord keyword " STORED CHECK " := by
  unfold withCheck GroupBody.kept
  split
  · rename_i shallow
    have said := say_group keyword _ _ [] onlyWords_check ((closes_body_iff body).mpr shallow)
    rw [List.append_nil] at said
    exact said.trans (Bool.or_false _)
  · rw [List.append_nil, say_words keyword _ onlyWords_check]

end Attributes

/-! ### What is read and rebuilt -/

/-- Behind an expression the attributes with a body are read as far as the body is kept. -/
theorem Tail.ofText_check (body : GroupBody) :
    ofText (" STORED CHECK (" ++ body.text ++ ")") =
      { attributes := Attributes.withCheck body, comment := [], trailing := [] } := by
  by_cases shallow : body.depth ≤ 1
  · have read := (Formed.bare _ (Attributes.whole_withCheck body)).ofText_append
    rw [← Attributes.withCheck_of_shallow body shallow]
    rwa [List.append_nil, List.append_nil] at read
  · have stops : Attributes.runLength 0 ('(' :: (body.text ++ [')'])) = 0 := by
      have mark : ¬ (Text.isWordChar '(' || Text.isBlank '(') = true := by decide
      rw [Attributes.runLength, if_neg mark, if_pos rfl, Attributes.closingLength?_direct,
        if_neg shallow]
    have cut := (Attributes.Whole.words _ Attributes.onlyWords_check).split_append _ stops
    have noComment : beforeComment? " STORED CHECK " = none := rfl
    unfold ofText
    rw [Attributes.check_parentheses, cut, Attributes.withCheck_of_deep body shallow]
    dsimp only
    rw [noComment]

namespace Column

section Checked

variable (offset : Int) (name : Text) (body : GroupBody)

/-- A column of integers whose values are stored, with a CHECK that has the body. -/
def checked : Column :=
  constant offset name (" STORED CHECK (" ++ body.text ++ ")")

theorem definition_checked : (checked offset name body).definition =
    Identifier.backquote name ++ " int AS (1)" ++ Attributes.withCheck body := by
  rw [checked, definition_constant, Tail.ofText_check, List.append_nil, List.append_nil]

theorem attributes_checked :
    (checked offset name body).tokenText? .attributes = some (Attributes.withCheck body) := by
  rw [checked, constant, Tail.ofText_check, tokenText?_ofParts]
  rfl

theorem declareStorage_withCheck :
    Attributes.declareStorage (Attributes.withCheck body) = true :=
  (congrArg₂ or (Attributes.say_withCheck "stored" body)
    (Attributes.say_withCheck "persistent" body)).trans rfl

theorem isVirtual_checked : (checked offset name body).isVirtual = false := by
  rw [checked, constant, Tail.ofText_check, isVirtual_ofParts _ _ _ _
    (Attributes.whole_withCheck body) Attributes.whole_nil, Attributes.say_withCheck,
    declareStorage_withCheck]
  rfl

/-- Rewriting for a stored column leaves the attributes alone. -/
theorem storedAttributes_withCheck (isVirtual : Bool) (support : ColumnSupport) :
    storedAttributes isVirtual support (Attributes.withCheck body) = Attributes.withCheck body := by
  have silent (keyword : Text) (unsaid : Text.hasWord keyword " STORED CHECK " = false) :
      Attributes.say keyword (Attributes.withCheck body) = false :=
    (Attributes.say_withCheck keyword body).trans unsaid
  exact storedAttributes_eq_self isVirtual support _ (Attributes.whole_withCheck body)
    (silent "virtual" rfl) (fun _ => silent "null" rfl) fun _ _ => silent "persistent" rfl

/-- A body that is kept stands in its parentheses behind the keyword, with its blanks squeezed. -/
theorem spread_kept (shallow : body.depth ≤ 1) : Text.spread (Text.words body.kept) =
    ' ' :: '(' :: (Text.squeeze body.text ++ [')']) := by
  have visible (mark : Char) (visible : Text.isBlank mark = false) : Text.Trimmed [mark] :=
    Text.Solid.trimmed ⟨List.cons_ne_nil mark [], List.forall_mem_singleton.mpr visible⟩
  have trimmed : Text.Trimmed ('(' :: (body.text ++ [')'])) :=
    (visible '(' rfl).append (visible ')' rfl) (List.cons_ne_nil _ _) (List.cons_ne_nil _ _)
      body.text
  unfold GroupBody.kept
  rw [if_pos shallow, Text.spread_words_of_trimmed _ trimmed (List.cons_ne_nil _ _),
    Text.squeeze_cons_visible '(' _ rfl, Text.squeeze_append_cons body.text [] ')' rfl]
  rfl

/-- The rebuilt column ends with what is kept of its CHECK. -/
theorem storedDefinition_checked (support : ColumnSupport) :
    (checked offset name body).storedDefinition support =
      Identifier.backquote name ++ " int AS (1) STORED CHECK" ++
        Text.spread (Text.words body.kept) := by
  have actual := isVirtual_checked offset name body
  have nonblank : Text.collapse "AS (1)" ≠ [] := List.cons_ne_nil _ _
  rw [checked, constant, Tail.ofText_check] at actual ⊢
  have words : Text.words (Attributes.withCheck body) =
      Text.words " STORED CHECK" ++ Text.words body.kept := by
    have cut : (" STORED CHECK " : Text) = " STORED CHECK" ++ [' '] := by simp
    unfold Attributes.withCheck
    rw [cut, List.append_assoc, List.singleton_append, Text.words_append_cons _ _ ' ' rfl]
  have named : Identifier.unquote (Text.double '\x60' name) = name :=
    Text.undouble_double '\x60' name
  have front : Text.spread (Text.words " int " ++ Text.words "AS (1)" ++
      Text.words " STORED CHECK") = " int AS (1) STORED CHECK" := rfl
  have nothing : Text.words [] = [] := rfl
  rw [storedDefinition_ofParts offset _ _ _ support false actual nonblank
    (Attributes.whole_withCheck body) Attributes.whole_nil, storedAttributes_withCheck,
    storedAttributes_nil, storedMark, declareStorage_withCheck, Bool.true_or, if_pos rfl, words]
  dsimp only [constantHead]
  rw [named, nothing, List.append_nil, List.append_nil, List.append_nil, ← List.append_assoc,
    Text.spread_append, front, List.append_assoc]

/-- The rebuilt column ends with the keyword where the body is not kept, and with the closing
parenthesis where it is. -/
theorem check_suffix_iff (support : ColumnSupport) :
    "CHECK".toList <:+ (checked offset name body).storedDefinition support ↔ 2 ≤ body.depth := by
  rw [storedDefinition_checked]
  by_cases shallow : body.depth ≤ 1
  · have closing : [')'] <:+ ' ' :: '(' :: (Text.squeeze body.text ++ [')']) :=
      List.suffix_append (' ' :: '(' :: Text.squeeze body.text) [')']
    rw [spread_kept body shallow]
    refine iff_of_false (fun keyword => ?_) (by omega)
    -- Of two ends of one text the shorter is an end of the longer.
    have both := List.suffix_of_suffix_length_le
      (closing.trans (List.suffix_append _ _)) keyword (by decide)
    exact absurd both (by decide)
  · have cut : (" int AS (1) STORED CHECK" : Text) = " int AS (1) STORED " ++ "CHECK" := by
      simp
    have nothing : Text.spread (Text.words []) = [] := rfl
    unfold GroupBody.kept
    rw [if_neg shallow, nothing, List.append_nil, cut, ← List.append_assoc]
    exact iff_of_true (List.suffix_append _ _) (by omega)

end Checked

/-- A column whose values are stored, with a CHECK in parentheses, is read at any depth of its body.
It is read to its end, the CHECK among its attributes, exactly if the groups of the body have no
further groups in them; otherwise the rebuilt column ends with the keyword. -/
theorem check_whole_iff (offset : Int) (name : Text) (body : GroupBody) (nonempty : name ≠ []) :
    ∃ column, parse? offset
        (Identifier.backquote name ++ " int AS (1) STORED CHECK (" ++ body.text ++ ")") =
          some column ∧
      column.name = name ∧ column.isVirtual = false ∧
      ((column.definition =
            Identifier.backquote name ++ " int AS (1) STORED CHECK (" ++ body.text ++ ")" ∧
          column.tokenText? .attributes = some (" STORED CHECK (" ++ body.text ++ ")")) ↔
        body.depth ≤ 1) ∧
      ∀ support, "CHECK".toList <:+ column.storedDefinition support ↔ 2 ≤ body.depth := by
  have source : Identifier.backquote name ++ " int AS (1) STORED CHECK (" ++ body.text ++ ")" =
      Identifier.backquote name ++ " int AS (1)" ++ (" STORED CHECK (" ++ body.text ++ ")") := by
    have cut : (" int AS (1) STORED CHECK (" : Text) = " int AS (1)" ++ " STORED CHECK (" := by
      simp
    simp only [cut, List.append_assoc]
  rw [source]
  refine ⟨checked offset name body, parse?_constant offset name _ nonempty,
    name_constant offset name _, isVirtual_checked offset name body, ?_,
    check_suffix_iff offset name body⟩
  rw [definition_checked, attributes_checked, Option.some_inj, List.append_cancel_left_eq,
    and_self]
  exact Attributes.withCheck_eq_iff body

/-- The call of a function. -/
def callBody : GroupBody :=
  .mark 'f' (by decide) (.group (.mark '1' (by decide) .nil) .nil)

/-- The call of a function on the value of another one. -/
def nestedCallBody : GroupBody :=
  .mark 'f' (by decide) (.group (.mark 'g' (by decide) (.group (.mark '1' (by decide) .nil) .nil))
    (.mark ' ' (by decide) (.mark '>' (by decide) (.mark ' ' (by decide)
      (.mark '0' (by decide) .nil)))))

/-- The call of a function in a CHECK is kept. -/
theorem check_whole_call :
    callBody.text = "f(1)" ∧ ∃ column, parse? 3
        (Identifier.backquote "a" ++ " int AS (1) STORED CHECK (" ++ callBody.text ++ ")") =
          some column ∧
      column.tokenText? .attributes = some (" STORED CHECK (" ++ callBody.text ++ ")") ∧
      ∀ support, ¬ "CHECK".toList <:+ column.storedDefinition support := by
  obtain ⟨column, parsed, _, _, whole, ends⟩ := check_whole_iff 3 "a" callBody (List.cons_ne_nil _ _)
  have shallow : callBody.depth ≤ 1 := by decide
  exact ⟨rfl, column, parsed, (whole.mpr shallow).2, fun support keyword =>
    absurd ((ends support).mp keyword) (by decide)⟩

/-- A call in the parentheses of another one makes the rebuilt column end with the keyword. -/
theorem not_check_whole_nestedCall :
    nestedCallBody.text = "f(g(1)) > 0" ∧
      ∃ column, parse? 0 "`a` int AS (1) STORED CHECK (f(g(1)) > 0)" = some column ∧
        column.definition = "`a` int AS (1) STORED CHECK " ∧
        column.tokenText? .attributes = some " STORED CHECK ".toList ∧
        column.storedDefinition ⟨true, true, true, true⟩ = "`a` int AS (1) STORED CHECK" := by
  refine ⟨rfl,
    { definition := "`a` int AS (1) STORED CHECK ", name := "a", isVirtual := false
      tokens := [⟨.dataType, " int ", 3⟩, ⟨.expression, "AS (1)", 8⟩,
        ⟨.attributes, " STORED CHECK ", 14⟩] }, ?_⟩
  exact ⟨by decide +kernel, rfl, rfl, by decide +kernel⟩

end Column

end DumpRestore
