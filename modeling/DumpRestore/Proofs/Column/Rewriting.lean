/-
This file says which words the attributes of a column get when it is rebuilt. Outside the groups of
attributes that have been read, nothing but blanks stands between two words, so that the next word
alone tells whether a NOT goes with a NULL. Three rewritings of a text, one behind the other, are
therefore one rule for lists of words. Collapsing the text afterwards moves no word to another place
between the groups, and a definition is put together from the collapsed texts.
-/

import DumpRestore.Proofs.Column.Rebuilt

namespace DumpRestore

open Text (Run)

namespace Column

/-! ### Rewriting words -/

/-- Words without NULL, and without NOT where the next word is NULL. -/
def withoutNull : List Text → List Text
  | [] => []
  | word :: words =>
    if Text.isKeyword "null" word = true ∨
        (Text.isKeyword "not" word = true ∧ words.head?.any (Text.isKeyword "null") = true) then
      withoutNull words
    else word :: withoutNull words

example : withoutNull ["NOT", "Not", "NULL", "null", "UNIQUE"] = ["NOT", "UNIQUE"] := by decide

/-- What a word becomes: STORED if it is VIRTUAL, or if it is PERSISTENT, the column is not virtual
and the server does not know the word. -/
def storedWord (isVirtual : Bool) (support : ColumnSupport) (word : Text) : Text :=
  if Text.isKeyword "virtual" word = true ∨ ((isVirtual = false ∧
      support.persistentSupported = false) ∧ Text.isKeyword "persistent" word = true) then "STORED"
  else word

/-- What the words of a stretch between groups become. -/
def rewrittenWords (isVirtual : Bool) (support : ColumnSupport) (words : List Text) : List Text :=
  (if support.notNullSupported then words else withoutNull words).map (storedWord isVirtual support)

theorem withoutNull_cons_of_null (word : Text) (words : List Text)
    (isNull : Text.isKeyword "null" word = true) :
    withoutNull (word :: words) = withoutNull words :=
  if_pos (Or.inl isNull)

theorem withoutNull_cons_of_not (word : Text) (words : List Text)
    (notNull : ¬ Text.isKeyword "null" word = true)
    (apart : ¬ (Text.isKeyword "not" word = true ∧
      words.head?.any (Text.isKeyword "null") = true)) :
    withoutNull (word :: words) = word :: withoutNull words :=
  if_neg (not_or.mpr ⟨notNull, apart⟩)

/-- Where words and gaps take turns and the gaps are blank, NULL is dropped from runs as it is from
the words among them. -/
theorem words_dropNullability (runs : List Run) (taken : Run.BlankTurns runs) :
    Run.words (dropNullability runs) = withoutNull (Run.words runs) := by
  fun_induction dropNullability runs with
  | case1 => rfl
  | case2 first between second rest both inductionHypothesis =>
    rw [Bool.and_eq_true, Bool.and_eq_true] at both
    obtain ⟨⟨isNot, -⟩, isNull⟩ := both
    rw [inductionHypothesis taken.tail.tail.tail, Run.words_cons_word, Run.words_cons_gap,
      Run.words_cons_word, withoutNull, if_pos (Or.inr ⟨isNot, isNull⟩),
      withoutNull_cons_of_null second _ isNull]
  | case3 first between second rest _ isNull inductionHypothesis =>
    rw [inductionHypothesis taken.tail, Run.words_cons_word first,
      withoutNull_cons_of_null first _ isNull]
  | case4 first between second rest notBoth notNull inductionHypothesis =>
    have apart : ¬ (Text.isKeyword "not" first = true ∧
        (Run.words (.gap between :: .word second :: rest)).head?.any (Text.isKeyword "null") =
          true) := by
      rintro ⟨isNot, isNull⟩
      have isBlank := taken.blank between (List.mem_cons_of_mem _ List.mem_cons_self)
      exact notBoth (Bool.and_eq_true_iff.mpr ⟨Bool.and_eq_true_iff.mpr ⟨isNot, isBlank⟩, isNull⟩)
    rw [Run.words_cons_word, Run.words_cons_word first, withoutNull_cons_of_not _ _ notNull apart,
      inductionHypothesis taken.tail]
  | case5 text rest _ isNull inductionHypothesis =>
    rw [inductionHypothesis taken.tail, Run.words_cons_word, withoutNull_cons_of_null text _ isNull]
  | case6 text rest noPair notNull inductionHypothesis =>
    have apart : ¬ (Text.isKeyword "not" text = true ∧
        (Run.words rest).head?.any (Text.isKeyword "null") = true) := by
      rw [taken.turns.words_eq_nil noPair]
      exact fun both => Bool.false_ne_true both.2
    rw [Run.words_cons_word, Run.words_cons_word, withoutNull_cons_of_not _ _ notNull apart,
      inductionHypothesis taken.tail]
  | case7 text rest inductionHypothesis => exact inductionHypothesis taken.tail

theorem words_map_renameStorage (isVirtual : Bool) (support : ColumnSupport) (runs : List Run) :
    Run.words (runs.map (renameStorage (!isVirtual && !support.persistentSupported))) =
      (Run.words runs).map (storedWord isVirtual support) := by
  induction runs with
  | nil => rfl
  | cons run runs inductionHypothesis =>
    cases run with
    | gap text => exact inductionHypothesis
    | word text =>
      have renamed : renameStorage (!isVirtual && !support.persistentSupported) (.word text) =
          .word (storedWord isVirtual support text) := by
        rw [renameStorage, storedWord, apply_ite Run.word]
        simp only [Bool.or_eq_true, Bool.and_eq_true, Bool.not_eq_true']
      rw [List.map_cons, renamed, Run.words_cons_word, Run.words_cons_word, List.map_cons,
        inductionHypothesis]

/-- The three rewritings of a text of words and blanks are one rule for its words. -/
theorem wordRuns_storedWords (isVirtual : Bool) (support : ColumnSupport) (words : Text)
    (onlyWords : Text.OnlyWords words) :
    Text.wordRuns (storedWords isVirtual support words) =
      rewrittenWords isVirtual support (Text.wordRuns words) := by
  have kept : Run.words (keptRuns support words) =
      if support.notNullSupported then Text.wordRuns words
      else withoutNull (Text.wordRuns words) := by
    rw [keptRuns]
    split
    · rfl
    · exact words_dropNullability _ onlyWords.blankTurns
  have rewritten := onlyWords_storedWords isVirtual support words onlyWords
  rw [Text.wordRuns_eq_words _ rewritten]
  rw [storedWords_eq] at rewritten ⊢
  rw [Text.words_toText _ (separated_map_renameStorage _ _ (separated_keptRuns support words))
    rewritten, words_map_renameStorage, kept, rewrittenWords]

/-! ### The parts of a rebuilt column -/

/-- Attributes are others with the words between the groups rewritten. Nothing but blanks stands
between two words or between a word and a group. -/
structure Rewords (isVirtual : Bool) (support : ColumnSupport) (attributes rewritten : Text) :
    Prop where
  whole : Attributes.Whole rewritten
  contents : Attributes.contents rewritten =
    (Attributes.contents attributes).map (.map (rewrittenWords isVirtual support))

theorem rewords_collapse (isVirtual : Bool) (support : ColumnSupport) (attributes : Text)
    (whole : Attributes.Whole attributes) :
    Rewords isVirtual support attributes
      (Text.collapse (storedAttributes isVirtual support attributes)) := by
  have storedWhole := whole_storedAttributes isVirtual support attributes whole
  refine ⟨?_, ?_⟩
  · rw [Text.collapse_eq]
    exact storedWhole.trim.squeeze
  · rw [Attributes.contents_collapse _ storedWhole]
    exact Attributes.contents_mapBare _ _ attributes whole
      (onlyWords_storedWords isVirtual support) (wordRuns_storedWords isVirtual support)

/-- STORED, where it is no word of two attribute texts and PERSISTENT is none either. -/
def addedStorage (attributes trailing : Text) : List Text :=
  let contents := Attributes.contents attributes ++ Attributes.contents trailing
  if contents.any (Attributes.Content.hasWord "stored") ||
    contents.any (Attributes.Content.hasWord "persistent") then [] else [("STORED" : Text)]

theorem addedStorage_eq (attributes trailing : Text) :
    addedStorage attributes trailing = storedMark attributes trailing := by
  have declared (text : Text) : Attributes.declareStorage text =
      (Attributes.say "stored" text || Attributes.say "persistent" text) := rfl
  rw [addedStorage, storedMark, declared, declared, List.any_append, List.any_append]
  simp only [Attributes.say_eq_any_contents]
  ac_rfl

/-- The text of the token of a kind, empty where there is no such token. -/
def tokenText (kind : TokenKind) (column : Column) : Text :=
  (column.tokenText? kind).getD []

/-- The tokens hold the texts of the parts. -/
theorem tokenText_ofParts (offset : Int) (head : Head) (expression : Text) (tail : Tail) :
    (ofParts offset head expression tail).tokenText .dataType = head.dataType ∧
      (ofParts offset head expression tail).tokenText .expression = expression ∧
      (ofParts offset head expression tail).tokenText .attributes = tail.attributes ∧
      (ofParts offset head expression tail).tokenText .comment = tail.comment ∧
      (ofParts offset head expression tail).tokenText .trailingAttributes = tail.trailing := by
  simp only [tokenText, tokenText?_ofParts]
  refine ⟨?_, ?_, ?_, ?_, ?_⟩
  · cases head.dataType <;> rfl
  · cases expression <;> rfl
  · cases tail.attributes <;> rfl
  · cases tail.comment <;> rfl
  · cases tail.trailing <;> rfl

/-- A stored definition is made of the name, the data type, the expression, the attributes, the
comment and the attributes behind it. The attributes are those of the column with the words between
groups rewritten; the other parts and the groups are kept, blanks apart. STORED stands behind the
expression where no word says already that values are stored. -/
theorem storedDefinition_rewrites (offset : Int) (fragment : Text) (column : Column)
    (support : ColumnSupport) (parsed : parse? offset fragment = some column) :
    ∃ attributes trailing,
      Rewords column.isVirtual support (column.tokenText .attributes) attributes ∧
      Rewords column.isVirtual support (column.tokenText .trailingAttributes) trailing ∧
      Text.collapse (column.tokenText .expression) ≠ [] ∧
      column.storedDefinition support = Text.join " " (Identifier.backquote column.name ::
        ([Text.collapse (column.tokenText .dataType)].filter (!·.isEmpty) ++
          [Text.collapse (column.tokenText .expression)] ++ addedStorage attributes trailing ++
          [attributes, Text.collapse (column.tokenText .comment), trailing].filter
            (!·.isEmpty))) := by
  obtain ⟨head, expression, tail, _, rfl, nonblank, formed⟩ :=
    exists_formed_of_parse? offset fragment column parsed
  obtain ⟨dataType, express, attributes, comment, trailing⟩ :=
    tokenText_ofParts offset head expression tail
  obtain ⟨whole, trailingWhole⟩ := formed.whole
  rw [dataType, express, attributes, comment, trailing]
  generalize actual : (ofParts offset head expression tail).isVirtual = isVirtual
  refine ⟨_, _, rewords_collapse isVirtual support _ whole,
    rewords_collapse isVirtual support _ trailingWhole, nonblank, ?_⟩
  have added : addedStorage (Text.collapse (storedAttributes isVirtual support tail.attributes))
      (Text.collapse (storedAttributes isVirtual support tail.trailing)) =
      storedMark (storedAttributes isVirtual support tail.attributes)
        (storedAttributes isVirtual support tail.trailing) := by
    rw [addedStorage_eq, storedMark, storedMark,
      declareStorage_collapse _ (whole_storedAttributes isVirtual support _ whole),
      declareStorage_collapse _ (whole_storedAttributes isVirtual support _ trailingWhole)]
  have markKept (first second : Text) :
      ((storedMark first second).map Text.collapse).filter (!·.isEmpty) =
        storedMark first second := by
    rw [storedMark]
    split
    · rfl
    · decide
  have expressionKept :
      [Text.collapse expression].filter (!·.isEmpty) = [Text.collapse expression] := by
    rw [List.filter_singleton, List.isEmpty_eq_false_iff.mpr nonblank]
    rfl
  rw [storedDefinition, map_storedParts_ofParts offset head expression tail support isVirtual actual
    nonblank whole trailingWhole, added, List.map_append, List.map_append, List.filter_append,
    List.filter_append, markKept, ← expressionKept, ← List.filter_append]
  rfl

/-- A virtual column with words of every sort around a check and behind its comment, on a server
that accepts neither NOT NULL nor PERSISTENT. -/
theorem storedDefinition_rewrites_check :
    ∃ column attributes trailing,
      parse? 7
        "`n` int AS ((1)) not NOT  null Virtual CHECK (`n` >  0) NULL COMMENT 'a  b' KEY null" =
        some column ∧
      Rewords column.isVirtual ⟨false, false, true, true⟩ (column.tokenText .attributes)
        attributes ∧
      Rewords column.isVirtual ⟨false, false, true, true⟩ (column.tokenText .trailingAttributes)
        trailing ∧
      Text.collapse (column.tokenText .expression) ≠ [] ∧
      column.storedDefinition ⟨false, false, true, true⟩ = Text.join " "
        (Identifier.backquote column.name ::
          ([Text.collapse (column.tokenText .dataType)].filter (!·.isEmpty) ++
            [Text.collapse (column.tokenText .expression)] ++ addedStorage attributes trailing ++
            [attributes, Text.collapse (column.tokenText .comment), trailing].filter
              (!·.isEmpty))) := by
  let column : Column :=
    { definition :=
        "`n` int AS ((1)) not NOT  null Virtual CHECK (`n` >  0) NULL COMMENT 'a  b' KEY null"
      name := "n"
      isVirtual := true
      tokens := [⟨.dataType, " int ", 10⟩, ⟨.expression, "AS ((1))", 15⟩,
        ⟨.attributes, " not NOT  null Virtual CHECK (`n` >  0) NULL ", 23⟩,
        ⟨.comment, "COMMENT 'a  b'", 68⟩, ⟨.trailingAttributes, " KEY null", 82⟩] }
  have parsed : parse? 7
      "`n` int AS ((1)) not NOT  null Virtual CHECK (`n` >  0) NULL COMMENT 'a  b' KEY null" =
      some column := by
    decide +kernel
  obtain ⟨attributes, trailing, rewritten, rewrittenTrailing, nonblank, definition⟩ :=
    storedDefinition_rewrites 7 _ column ⟨false, false, true, true⟩ parsed
  exact ⟨column, attributes, trailing, parsed, rewritten, rewrittenTrailing, nonblank, definition⟩

end Column

end DumpRestore
