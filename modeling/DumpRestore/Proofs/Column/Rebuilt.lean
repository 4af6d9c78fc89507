/-
This file proves that a stored definition is a normal form which the reader reads back. Read again,
the definition gives a column of the same name whose values are stored, and nothing of it is left
over. Rebuilding that column gives the definition once more, unless the attributes of the first
column said VIRTUAL and PERSISTENT at once: PERSISTENT is kept beside VIRTUAL and rewritten only
when VIRTUAL is gone.

The blanks of the head and of the expression are squeezed; a space comes between the data type and
the opening of the expression; and behind the expression stands a new tail, whose attributes are
the rewritten ones.
-/

import DumpRestore.Proofs.Column.Respacing
import DumpRestore.Proofs.Column.Stored
import DumpRestore.Proofs.Column.Tail

namespace DumpRestore

namespace Column

/-- What counts for the storage of a column is what its attributes say, those in front of the
comment and those behind it. -/
theorem say_attributeText (offset : Int) (head : Head) (expression : Text) (tail : Tail)
    (keyword : Text) (whole : Attributes.Whole tail.attributes)
    (trailingWhole : Attributes.Whole tail.trailing) :
    Attributes.say keyword (attributeText (ofParts offset head expression tail).tokens) =
      (Attributes.say keyword tail.attributes || Attributes.say keyword tail.trailing) := by
  rw [attributeText_ofParts, List.filter_cons, List.filter_cons, List.filter_nil]
  cases equal : tail.trailing with
  | nil =>
    have silent : Attributes.say keyword [] = false := rfl
    rw [silent, Bool.or_false]
    cases tail.attributes <;> rfl
  | cons first rest =>
    rw [equal] at trailingWhole
    cases attributes : tail.attributes with
    | nil => rfl
    | cons character others =>
      rw [attributes] at whole
      have said := Attributes.say_append keyword (character :: others) (' ' :: first :: rest) whole
        (trailingWhole.cons (Text.onlyWords_blank ' ' rfl)) (Text.endsWord_cons ' ' _ rfl)
      rw [Attributes.say_cons_blank keyword ' ' _ trailingWhole rfl] at said
      refine Eq.trans (congrArg (Attributes.say keyword) ?_) said
      show character :: others ++ [' '] ++ first :: rest = _
      rw [List.append_assoc, List.singleton_append]

/-- A column is virtual where its attributes say VIRTUAL, or neither STORED nor PERSISTENT. -/
theorem isVirtual_ofParts (offset : Int) (head : Head) (expression : Text) (tail : Tail)
    (whole : Attributes.Whole tail.attributes) (trailingWhole : Attributes.Whole tail.trailing) :
    (ofParts offset head expression tail).isVirtual =
      (Attributes.say "virtual" tail.attributes || Attributes.say "virtual" tail.trailing ||
        !(Attributes.declareStorage tail.attributes ||
          Attributes.declareStorage tail.trailing)) := by
  have said (keyword : Text) :=
    say_attributeText offset head expression tail keyword whole trailingWhole
  have stored : Attributes.declareStorage
      (attributeText (ofParts offset head expression tail).tokens) =
      (Attributes.declareStorage tail.attributes || Attributes.declareStorage tail.trailing) := by
    refine (congrArg₂ or (said "stored") (said "persistent")).trans ?_
    unfold Attributes.declareStorage Attributes.say
    ac_rfl
  exact congrArg₂ or (said "virtual") (congrArg not stored)

/-- The attributes of a virtual column that do not say VIRTUAL and PERSISTENT at once do not say
PERSISTENT at all. -/
theorem not_persistent_of_isVirtual (offset : Int) (head : Head) (expression : Text) (tail : Tail)
    (formed : tail.Formed) (virtual : (ofParts offset head expression tail).isVirtual = true)
    (notBoth : ¬ (Attributes.say "virtual"
          (attributeText (ofParts offset head expression tail).tokens) = true ∧
        Attributes.say "persistent"
          (attributeText (ofParts offset head expression tail).tokens) = true)) :
    Attributes.say "persistent" tail.attributes = false ∧
      Attributes.say "persistent" tail.trailing = false := by
  have said (keyword : Text) :=
    say_attributeText offset head expression tail keyword formed.whole.1 formed.whole.2
  rw [isVirtual_ofParts offset head expression tail formed.whole.1 formed.whole.2] at virtual
  rw [said, said] at notBoth
  rw [← Bool.or_eq_false_iff, Bool.eq_false_iff]
  intro persistent
  refine notBoth ⟨?_, persistent⟩
  have stored : (Attributes.declareStorage tail.attributes ||
      Attributes.declareStorage tail.trailing) = true := by
    rw [Bool.or_eq_true] at persistent ⊢
    exact persistent.imp (fun here => Bool.or_eq_true_iff.mpr (Or.inr here))
      fun here => Bool.or_eq_true_iff.mpr (Or.inr here)
  rwa [stored, Bool.not_true, Bool.or_false] at virtual

/-! ### The new tail -/

/-- A tail that is read behind a rebuilt expression: the words in front of the attributes and
theirs, the words of the comment, and the words of the attributes behind it. -/
structure Rereads (again : Tail) (mark : List Text) (attributes comment trailing : Text) :
    Prop where
  formed : again.Formed
  text : again.attributes ++ (again.comment ++ again.trailing) =
    Text.spread (mark ++ Text.words attributes ++ Text.words comment ++ Text.words trailing)
  words : Text.words again.attributes = mark ++ Text.words attributes ∧
    Text.words again.comment = Text.words comment ∧
    Text.words again.trailing = Text.words trailing
  spoken : ∀ keyword, Attributes.say keyword again.attributes =
      (Attributes.say keyword (Text.spread mark) || Attributes.say keyword attributes) ∧
    Attributes.say keyword again.trailing = Attributes.say keyword trailing

section NewTail

variable (mark : List Text) (attributes trailing : Text)
  (markSolid : ∀ text ∈ mark, Text.Solid text) (markWhole : Attributes.Whole (Text.spread mark))
  (whole : Attributes.Whole attributes) (trailingWhole : Attributes.Whole trailing)

include markSolid in
theorem words_spread_mark :
    Text.words (Text.spread (mark ++ Text.words attributes)) = mark ++ Text.words attributes := by
  refine Text.words_spread _ fun text member => ?_
  exact (List.mem_append.mp member).elim (markSolid text) (Text.solid_of_mem_words attributes text)

include markWhole whole

theorem whole_spread_mark : Attributes.Whole (Text.spread (mark ++ Text.words attributes)) := by
  rw [Text.spread_append]
  exact markWhole.append whole.spread_words

theorem say_spread_mark (keyword : Text) :
    Attributes.say keyword (Text.spread (mark ++ Text.words attributes)) =
      (Attributes.say keyword (Text.spread mark) || Attributes.say keyword attributes) := by
  rw [Text.spread_append, Attributes.say_append keyword _ _ markWhole whole.spread_words
    (Text.endsWord_spread _), Attributes.say_spread_words keyword attributes whole]

include markSolid

/-- Without a comment the words behind the expression are one run of attributes. -/
theorem rereads_bare :
    Rereads ⟨Text.spread (mark ++ Text.words attributes), [], []⟩ mark attributes [] [] where
  formed := .bare _ (whole_spread_mark mark attributes markWhole whole)
  text := by
    show Text.spread (mark ++ Text.words attributes) ++ [] =
      Text.spread (mark ++ Text.words attributes ++ [] ++ [])
    simp only [List.append_nil]
  words := ⟨words_spread_mark mark attributes markSolid, rfl, rfl⟩
  spoken keyword := ⟨say_spread_mark mark attributes markWhole whole keyword, rfl⟩

include trailingWhole

/-- A comment is found behind the attributes, with the attributes behind it. -/
theorem rereads_commented (comment : Comment) :
    Rereads ⟨Text.spread (mark ++ Text.words attributes) ++ [' '], comment.squeezed.text,
      Text.spread (Text.words trailing)⟩ mark attributes comment.text trailing := by
  have attributesWhole := whole_spread_mark mark attributes markWhole whole
  have spaceWhole : Attributes.Whole [' '] := .words _ (Text.onlyWords_blank ' ' rfl)
  have commentWords := Text.spread_words_of_trimmed comment.text comment.trimmed_text
    comment.text_ne_nil
  constructor
  · exact .commented _ comment.squeezed _ (attributesWhole.append spaceWhole)
      trailingWhole.spread_words
  · simp only [comment.text_squeezed, Text.spread_append, commentWords, List.append_assoc,
      List.cons_append, List.nil_append]
  · refine ⟨?_, ?_, ?_⟩
    · rw [Text.words_append_space, words_spread_mark mark attributes markSolid]
    · rw [comment.text_squeezed, Text.words_squeeze]
    · exact Text.words_spread _ (Text.solid_of_mem_words trailing)
  · intro keyword
    refine ⟨?_, Attributes.say_spread_words keyword trailing trailingWhole⟩
    have silent : Attributes.say keyword [' '] = false :=
      Attributes.say_blanks keyword [' '] (List.forall_mem_singleton.mpr rfl)
    rw [Attributes.say_append keyword _ [' '] attributesWhole spaceWhole
      (Text.endsWord_cons ' ' [] rfl), silent, Bool.or_false,
      say_spread_mark mark attributes markWhole whole keyword]

end NewTail

theorem solid_of_mem_storedMark (first second text : Text)
    (member : text ∈ storedMark first second) :
    Text.Solid text := by
  rw [storedMark] at member
  split at member
  · cases member
  · rw [List.mem_singleton.mp member]
    let stored : Text.Word := .ofText "STORED" rfl
    exact ⟨stored.nonempty, fun character inStored =>
      Text.isBlank_of_isWordChar character (stored.inWord character inStored)⟩

theorem onlyWords_spread_storedMark (first second : Text) :
    Text.OnlyWords (Text.spread (storedMark first second)) := by
  rw [storedMark]
  split
  · exact Attributes.onlyWords_nil
  · exact Text.onlyWords_of_all _ rfl

/-- A rebuilt tail is read again, whatever the tail was that it was rebuilt from. -/
theorem exists_rereads (tail : Tail) (formed : tail.Formed) (isVirtual : Bool)
    (support : ColumnSupport) :
    ∃ again, Rereads again
      (storedMark (storedAttributes isVirtual support tail.attributes)
        (storedAttributes isVirtual support tail.trailing))
      (storedAttributes isVirtual support tail.attributes) tail.comment
      (storedAttributes isVirtual support tail.trailing) := by
  have markSolid (first second : Text) : ∀ text ∈ storedMark first second, Text.Solid text :=
    fun text member => solid_of_mem_storedMark first second text member
  have markWhole (first second : Text) :
      Attributes.Whole (Text.spread (storedMark first second)) :=
    .words _ (onlyWords_spread_storedMark first second)
  cases formed with
  | bare attributes whole =>
    have attributesWhole := whole_storedAttributes isVirtual support attributes whole
    dsimp only
    rw [storedAttributes_nil]
    exact ⟨_, rereads_bare _ _ (markSolid _ _) (markWhole _ _) attributesWhole⟩
  | commented attributes comment trailing whole trailingWhole =>
    have attributesWhole := whole_storedAttributes isVirtual support attributes whole
    have trailingStored := whole_storedAttributes isVirtual support trailing trailingWhole
    exact ⟨_, rereads_commented _ _ _ (markSolid _ _) (markWhole _ _) attributesWhole trailingStored
      comment⟩

/-! ### The column read again -/

/-- Some attributes of a rebuilt tail say that values are stored. -/
theorem Rereads.declareStorage {again : Tail} {attributes comment trailing : Text}
    (rereads : Rereads again (storedMark attributes trailing) attributes comment trailing) :
    (Attributes.declareStorage again.attributes || Attributes.declareStorage again.trailing) =
      true := by
  have said (keyword : Text) := rereads.spoken keyword
  have first : Attributes.declareStorage again.attributes =
      (Attributes.declareStorage (Text.spread (storedMark attributes trailing)) ||
        Attributes.declareStorage attributes) := by
    have both := congrArg₂ or (said "stored").1 (said "persistent").1
    refine both.trans ?_
    unfold Attributes.declareStorage Attributes.say
    ac_rfl
  have second : Attributes.declareStorage again.trailing = Attributes.declareStorage trailing :=
    congrArg₂ or (said "stored").2 (said "persistent").2
  rw [first, second, Bool.or_assoc]
  cases declared : Attributes.declareStorage attributes || Attributes.declareStorage trailing with
  | true => exact Bool.or_true _
  | false =>
    rw [storedMark, declared, if_neg Bool.false_ne_true]
    decide

/-- The word STORED is none of the unwanted ones. -/
theorem say_spread_storedMark (support : ColumnSupport) (first second keyword : Text)
    (member : keyword ∈ unwantedKeywords support) :
    Attributes.say keyword (Text.spread (storedMark first second)) = false := by
  rw [storedMark]
  rcases (mem_unwantedKeywords support keyword).mp member with rfl | ⟨_, rfl⟩ | ⟨_, rfl⟩ <;>
    split <;> decide

/-- Attributes that a rebuilt tail is put together from are settled in it. -/
theorem Rereads.settled {again : Tail} {attributes comment trailing first second : Text}
    {support : ColumnSupport}
    (rereads : Rereads again (storedMark first second) attributes comment trailing)
    (attributesSettled : Settled support attributes) (trailingSettled : Settled support trailing) :
    Settled support again.attributes ∧ Settled support again.trailing := by
  refine ⟨⟨rereads.formed.whole.1, fun keyword member => ?_⟩,
    ⟨rereads.formed.whole.2, fun keyword member => ?_⟩⟩
  · rw [(rereads.spoken keyword).1, say_spread_storedMark support first second keyword member,
      attributesSettled.silent keyword member]
    rfl
  · rw [(rereads.spoken keyword).2, trailingSettled.silent keyword member]

section Again

variable {source : Text} {head : Head} (found : Head.find? source = some head) (body : Text)

include found

/-- An expression starts and ends with no blank. -/
theorem trimmed_expression : Text.Trimmed (head.opening ++ (body ++ [')'])) := by
  have fits := Head.fits_of_find? source head found
  obtain ⟨lead, opening⟩ := fits.exists_opening
  have starts := Head.startsVisible_of_opens _ _ fits.opens
  constructor
  · intro character member
    rw [opening] at member starts
    cases lead with
    | nil =>
      cases member
      rfl
    | cons first lead =>
      cases member
      exact starts
  · intro character member
    rw [← List.append_assoc, List.getLast?_concat] at member
    cases member
    rfl

theorem squeeze_expression : Text.squeeze (head.opening ++ (body ++ [')'])) =
    Text.squeeze head.opening ++ (Text.squeeze body ++ [')']) := by
  obtain ⟨lead, opening⟩ := (Head.fits_of_find? source head found).exists_opening
  rw [opening, List.append_assoc, List.singleton_append, Text.squeeze_append_cons lead _ '(' rfl,
    Text.squeeze_append_cons lead [] '(' rfl, Text.squeeze_append_cons body [] ')' rfl,
    List.append_assoc]
  rfl

theorem collapse_expression_ne_nil : Text.collapse (head.opening ++ (body ++ [')'])) ≠ [] := by
  rw [Text.collapse_of_trimmed _ (trimmed_expression found body), squeeze_expression found body]
  simp

theorem spread_words_expression : Text.spread (Text.words (head.opening ++ (body ++ [')']))) =
    ' ' :: (Text.squeeze head.opening ++ (Text.squeeze body ++ [')'])) := by
  rw [Text.spread_words_of_trimmed _ (trimmed_expression found body) (by simp),
    squeeze_expression found body]

end Again

/-- A column that is read is made of a head, an expression that is not blank and a well-formed
tail. -/
theorem exists_formed_of_parse? (offset : Int) (fragment : Text) (column : Column)
    (parsed : parse? offset fragment = some column) :
    ∃ head expression tail, Head.find? fragment = some head ∧
      column = ofParts offset head expression tail ∧ Text.collapse expression ≠ [] ∧
      Tail.Formed tail := by
  obtain ⟨head, found, closed⟩ := Option.bind_eq_some_iff.mp parsed
  obtain ⟨length, closing, rfl⟩ := Option.map_eq_some_iff.mp closed
  obtain ⟨body, more, rest, rfl, balanced⟩ := Nesting.exists_balanced head.rest length closing
  have taken : head.rest.take (body.length + 1) = body ++ [')'] := by
    rw [rest, ← List.singleton_append, ← List.append_assoc]
    exact List.take_left' (by simp)
  refine ⟨head, _, _, found, rfl, ?_, Tail.formed_ofText _⟩
  rw [taken]
  exact collapse_expression_ne_nil found body

/-- The column that is read again: its head respaced, its expression squeezed, and the new tail. -/
def reread (base : Int) (head : Head) (body : Text) (again : Tail) : Column :=
  ofParts base
    (head.respaced (Text.squeeze body ++
      ')' :: (again.attributes ++ (again.comment ++ again.trailing))))
    (Text.squeeze head.opening ++ (Text.squeeze body ++ [')'])) again

/-- A text of this shape is read to its end. -/
theorem parse?_reread (base : Int) (source : Text) (head : Head) (body : Text) (again : Tail)
    (found : Head.find? source = some head) (starts : Text.startsBlank head.dataType = true)
    (balanced : Nesting.Balanced body) (formed : again.Formed) :
    parse? base (reread base head body again).definition = some (reread base head body again) ∧
      (reread base head body again).definition =
        Identifier.backquote (Identifier.unquote head.name) ++
          (Text.squeeze (head.dataType ++ [' ']) ++ (Text.squeeze head.opening ++
            (Text.squeeze body ++
              ')' :: (again.attributes ++ (again.comment ++ again.trailing))))) := by
  have spelled := (Head.fits_of_find? source head found).spelled
  have named := Identifier.backquote_unquote head.name spelled
  have text : (reread base head body again).definition =
      '\x60' :: (head.name ++ '\x60' :: (Text.squeeze (head.dataType ++ [' ']) ++
        (Text.squeeze head.opening ++ (Text.squeeze body ++
          ')' :: (again.attributes ++ (again.comment ++ again.trailing)))))) := by
    simp only [reread, ofParts, Head.respaced, List.append_assoc, List.cons_append,
      List.nil_append]
  constructor
  · have read := parse?_of_find? base _ _ (Text.squeeze body)
      (again.attributes ++ (again.comment ++ again.trailing))
      (Head.find?_respaced source head found starts _) balanced.squeeze rfl
    rw [formed.ofText_append] at read
    rw [text, read]
    rfl
  · rw [text, named]
    simp only [List.append_assoc, List.cons_append, List.nil_append]

section Rereading

variable (offset base : Int) {source : Text} {head : Head} (found : Head.find? source = some head)
  (starts : Text.startsBlank head.dataType = true) (body : Text) {tail : Tail}
  (formed : tail.Formed) (support : ColumnSupport) (isVirtual : Bool)
  (actual : (ofParts offset head (head.opening ++ (body ++ [')'])) tail).isVirtual = isVirtual)
  {again : Tail}
  (rereads : Rereads again
    (storedMark (storedAttributes isVirtual support tail.attributes)
      (storedAttributes isVirtual support tail.trailing))
    (storedAttributes isVirtual support tail.attributes) tail.comment
    (storedAttributes isVirtual support tail.trailing))

include formed rereads

/-- The values of the column that is read again are stored. -/
theorem isVirtual_reread : (reread base head body again).isVirtual = false := by
  have member : ("virtual" : Text) ∈ unwantedKeywords support :=
    (mem_unwantedKeywords support _).mpr (Or.inl rfl)
  have read := isVirtual_ofParts base
    (head.respaced (Text.squeeze body ++
      ')' :: (again.attributes ++ (again.comment ++ again.trailing))))
    (Text.squeeze head.opening ++ (Text.squeeze body ++ [')'])) again
    rereads.formed.whole.1 rereads.formed.whole.2
  rw [(rereads.spoken "virtual").1, (rereads.spoken "virtual").2,
    say_spread_storedMark support _ _ _ member,
    not_virtual_storedAttributes isVirtual support _ formed.whole.1,
    not_virtual_storedAttributes isVirtual support _ formed.whole.2, rereads.declareStorage] at read
  exact read

include found actual

/-- Rebuilding the column that is read again changes nothing, as long as the attributes of a column
that was virtual did not say PERSISTENT. -/
theorem storedDefinition_reread (notBoth : isVirtual = true →
      Attributes.say "persistent" tail.attributes = false ∧
        Attributes.say "persistent" tail.trailing = false) :
    (reread base head body again).storedDefinition support =
      (ofParts offset head (head.opening ++ (body ++ [')'])) tail).storedDefinition support := by
  have nonblank := collapse_expression_ne_nil found body
  have squeezed := squeeze_expression found body
  have nonblankAgain : Text.collapse (Text.squeeze head.opening ++ (Text.squeeze body ++ [')'])) ≠
      [] := by
    rwa [← squeezed, Text.collapse_squeeze]
  obtain ⟨attributesSettled, trailingSettled⟩ := rereads.settled
    (settled_storedAttributes isVirtual support _ formed.whole.1 fun virtual => (notBoth virtual).1)
    (settled_storedAttributes isVirtual support _ formed.whole.2 fun virtual => (notBoth virtual).2)
  have noMark : storedMark again.attributes again.trailing = [] := by
    rw [storedMark, rereads.declareStorage, if_pos rfl]
  have typeWords : Text.words (Text.squeeze (head.dataType ++ [' '])) =
      Text.words head.dataType := by
    rw [Text.words_squeeze, Text.words_append_space]
  have expressionWords : Text.words (Text.squeeze head.opening ++ (Text.squeeze body ++ [')'])) =
      Text.words (head.opening ++ (body ++ [')'])) := by
    rw [← squeezed, Text.words_squeeze]
  obtain ⟨attributesWords, commentWords, trailingWords⟩ := rereads.words
  rw [reread, storedDefinition_ofParts base _ _ again support false
      (isVirtual_reread base body formed support isVirtual rereads) nonblankAgain
      rereads.formed.whole.1 rereads.formed.whole.2,
    storedDefinition_ofParts offset head _ tail support isVirtual actual nonblank formed.whole.1
      formed.whole.2,
    attributesSettled.storedAttributes_eq, trailingSettled.storedAttributes_eq, noMark,
    expressionWords, attributesWords, commentWords, trailingWords]
  show Identifier.backquote (Identifier.unquote head.name) ++ Text.spread
    (Text.words (Text.squeeze (head.dataType ++ [' '])) ++ _ ++ _ ++ _ ++ _ ++ _) = _
  rw [typeWords, List.append_nil]
  simp only [List.append_assoc]

include starts

/-- The stored definition of a column is the definition of the column that is read again. -/
theorem storedDefinition_eq_reread :
    (ofParts offset head (head.opening ++ (body ++ [')'])) tail).storedDefinition support =
      Identifier.backquote (Identifier.unquote head.name) ++
        (Text.squeeze (head.dataType ++ [' ']) ++ (Text.squeeze head.opening ++
          (Text.squeeze body ++
            ')' :: (again.attributes ++ (again.comment ++ again.trailing))))) := by
  rw [storedDefinition_ofParts offset head _ tail support isVirtual actual
    (collapse_expression_ne_nil found body) formed.whole.1 formed.whole.2, rereads.text,
    Text.squeeze_append_space head.dataType starts]
  simp only [Text.spread_append, spread_words_expression found body, List.append_assoc,
    List.cons_append, List.nil_append]

end Rereading

/-! ### The normal form -/

/-- The data type of a column is its first token. -/
theorem token?_dataType_ofParts (offset : Int) (head : Head) (expression : Text) (tail : Tail)
    (nonempty : head.dataType ≠ []) :
    ∃ position, (ofParts offset head expression tail).token? .dataType =
      some { kind := .dataType, text := head.dataType, offset := position } := by
  refine ⟨offset + head.before.length + ('\x60' :: head.name ++ ['\x60']).length, ?_⟩
  rw [token?, ofParts, tokensFrom_cons_of_ne_nil _ _ _ _ nonempty]
  rfl

/-- A stored definition is read back as a column with the same name whose values are stored, at
whatever position it stands, and nothing of it is left over. Rebuilding that column gives the same
definition, unless the attribute words of the first column said VIRTUAL and PERSISTENT. This holds
for every column that is read with a blank in front of its data type. -/
theorem parse?_storedDefinition (offset base : Int) (fragment : Text) (column : Column)
    (support : ColumnSupport) (parsed : parse? offset fragment = some column)
    (spaced : ∀ token ∈ column.token? .dataType, Text.startsBlank token.text = true) :
    ∃ again, parse? base (column.storedDefinition support) = some again ∧
      again.definition = column.storedDefinition support ∧ again.name = column.name ∧
      again.isVirtual = false ∧
      (¬ (Text.hasWord "virtual" (Attributes.bareWords (attributeText column.tokens)) = true ∧
          Text.hasWord "persistent" (Attributes.bareWords (attributeText column.tokens)) = true) →
        again.storedDefinition support = column.storedDefinition support) := by
  obtain ⟨head, found, closed⟩ := Option.bind_eq_some_iff.mp parsed
  obtain ⟨length, closing, rfl⟩ := Option.map_eq_some_iff.mp closed
  obtain ⟨body, more, rest, rfl, balanced⟩ := Nesting.exists_balanced head.rest length closing
  have formed := Tail.formed_ofText more
  have cut : head.rest = (body ++ [')']) ++ more := by
    rw [rest, List.append_assoc, List.singleton_append]
  have length : body.length + 1 = (body ++ [')']).length := by
    rw [List.length_append]
    rfl
  clear closed closing parsed rest
  rw [cut, length, List.take_left, List.drop_left] at spaced ⊢
  generalize Tail.ofText more = tail at spaced formed ⊢
  have starts : Text.startsBlank head.dataType = true := by
    have nonempty : head.dataType ≠ [] := by
      intro empty
      have ends := (Head.fits_of_find? fragment head found).ends
      rw [empty] at ends
      cases ends
    obtain ⟨position, token⟩ := token?_dataType_ofParts offset head
      (head.opening ++ (body ++ [')'])) tail nonempty
    exact spaced _ token
  generalize actual :
    (ofParts offset head (head.opening ++ (body ++ [')'])) tail).isVirtual = isVirtual
  obtain ⟨again, rereads⟩ := exists_rereads tail formed isVirtual support
  obtain ⟨reads, text⟩ := parse?_reread base fragment head body again found starts balanced
    rereads.formed
  have stored := storedDefinition_eq_reread offset found starts body formed support isVirtual actual
    rereads
  rw [← text] at stored
  refine ⟨reread base head body again, stored ▸ reads, stored.symm, rfl,
    isVirtual_reread base body formed support isVirtual rereads, fun notBoth => ?_⟩
  refine storedDefinition_reread offset base found body formed support isVirtual actual
    rereads fun virtual => not_persistent_of_isVirtual offset head _ tail formed ?_ notBoth
  rw [actual, virtual]

/-- A virtual column with a comment, on a server that accepts no NOT NULL. -/
theorem parse?_storedDefinition_total :
    ∃ column again, parse? 0 "`total` int(9)  AS ((`price` * 2)) VIRTUAL NOT NULL COMMENT 'a  note'" =
        some column ∧
      (∀ token ∈ column.token? .dataType, Text.startsBlank token.text = true) ∧
      ¬ (Text.hasWord "virtual" (Attributes.bareWords (attributeText column.tokens)) = true ∧
        Text.hasWord "persistent" (Attributes.bareWords (attributeText column.tokens)) = true) ∧
      parse? 5 (column.storedDefinition ⟨true, false, true, true⟩) = some again ∧
      again.definition = column.storedDefinition ⟨true, false, true, true⟩ ∧
      again.name = column.name ∧ again.isVirtual = false ∧
      again.storedDefinition ⟨true, false, true, true⟩ =
        column.storedDefinition ⟨true, false, true, true⟩ := by
  let column : Column :=
    { definition := "`total` int(9)  AS ((`price` * 2)) VIRTUAL NOT NULL COMMENT 'a  note'"
      name := "total"
      isVirtual := true
      tokens := [⟨.dataType, " int(9)  ", 7⟩, ⟨.expression, "AS ((`price` * 2))", 16⟩,
        ⟨.attributes, " VIRTUAL NOT NULL ", 34⟩, ⟨.comment, "COMMENT 'a  note'", 52⟩] }
  have parsed : parse? 0 "`total` int(9)  AS ((`price` * 2)) VIRTUAL NOT NULL COMMENT 'a  note'" =
      some column := by
    decide +kernel
  have spaced : ∀ token ∈ column.token? .dataType, Text.startsBlank token.text = true := by
    decide +kernel
  have notBoth : ¬ (Text.hasWord "virtual" (Attributes.bareWords (attributeText column.tokens)) =
        true ∧
      Text.hasWord "persistent" (Attributes.bareWords (attributeText column.tokens)) = true) := by
    decide +kernel
  obtain ⟨again, reads, whole, name, stored, same⟩ :=
    parse?_storedDefinition 0 5 _ column ⟨true, false, true, true⟩ parsed spaced
  exact ⟨column, again, parsed, spaced, notBoth, reads, whole, name, stored, same notBoth⟩

end Column

end DumpRestore
