/-
This file proves that the storage of a column is the same in whatever order its attributes are
joined, those in front of its comment and those behind it. What decides is that either part is
attributes to its end: no group of it is left open, so that the blank between the parts is a blank
between words, and neither a word nor a group goes on from one part into the other.
-/

import DumpRestore.Proofs.Column.Rebuilt

namespace DumpRestore

/-! ### Texts joined by blanks -/

namespace Text

theorem join_space (first : Text) (texts : List Text) (nonempty : texts ≠ []) :
    join " " (first :: texts) = first ++ ' ' :: join " " texts := by
  cases texts with
  | nil => exact absurd rfl nonempty
  | cons second texts =>
    rw [join_cons_cons, List.append_assoc]
    rfl

/-- Texts may as well be joined within one of them. -/
theorem join_append_space (front back : List Text) (last head : Text) :
    join " " (front ++ (last ++ ' ' :: head) :: back) =
      join " " (front ++ [last]) ++ ' ' :: join " " (head :: back) := by
  induction front with
  | nil =>
    cases back with
    | nil => rfl
    | cons second back =>
      rw [List.nil_append, join_space _ _ (List.cons_ne_nil second back),
        join_space head _ (List.cons_ne_nil second back), List.append_assoc]
      rfl
  | cons first front inductionHypothesis =>
    rw [List.cons_append, join_space first _ (List.append_ne_nil_of_right_ne_nil _ (by simp)),
      List.cons_append, join_space first _ (List.append_ne_nil_of_right_ne_nil _ (by simp)),
      inductionHypothesis, List.append_assoc]
    rfl

section Joining

variable (good : Text → Prop) (empty : good [])
  (spaced : ∀ first rest, good first → good rest → good (first ++ ' ' :: rest))

include empty spaced

theorem holds_join (texts : List Text) (each : ∀ text ∈ texts, good text) :
    good (join " " texts) := by
  induction texts with
  | nil => exact empty
  | cons first texts inductionHypothesis =>
    obtain ⟨here, further⟩ := List.forall_mem_cons.mp each
    cases texts with
    | nil => exact here
    | cons second texts =>
      rw [join_space first _ (List.cons_ne_nil second texts)]
      exact spaced first _ here (inductionHypothesis further)

/-- What is read of texts one after the other is read of the joined text, where a blank between two
texts divides what is read of them. -/
theorem flatMap_join {Item : Type} (items : Text → List Item) (nothing : items [] = [])
    (divides : ∀ first rest, good first → good rest →
      items (first ++ ' ' :: rest) = items first ++ items rest)
    (texts : List Text) (each : ∀ text ∈ texts, good text) :
    items (join " " texts) = texts.flatMap items := by
  induction texts with
  | nil => exact nothing
  | cons first texts inductionHypothesis =>
    obtain ⟨here, further⟩ := List.forall_mem_cons.mp each
    cases texts with
    | nil => exact (List.append_nil _).symm
    | cons second texts =>
      rw [join_space first _ (List.cons_ne_nil second texts),
        divides first _ here (holds_join good empty spaced _ further), inductionHypothesis further]
      exact List.flatMap_cons.symm

end Joining

theorem OnlyWords.append_space {first rest : Text} (firstWords : OnlyWords first)
    (restWords : OnlyWords rest) : OnlyWords (first ++ ' ' :: rest) :=
  firstWords.append ((onlyWords_blank ' ' rfl).append restWords)

/-- No word goes on from one text into the next. -/
theorem wordRuns_join (texts : List Text) (onlyWords : ∀ text ∈ texts, OnlyWords text) :
    wordRuns (join " " texts) = texts.flatMap wordRuns := by
  have spaced (first rest : Text) (firstWords : OnlyWords first) (restWords : OnlyWords rest) :=
    firstWords.append_space restWords
  refine flatMap_join OnlyWords (onlyWords_of_all [] rfl) spaced wordRuns rfl
    (fun first rest firstWords restWords => ?_) texts onlyWords
  rw [wordRuns_eq_words _ (firstWords.append_space restWords), words_append_cons _ _ ' ' rfl,
    wordRuns_eq_words first firstWords, wordRuns_eq_words rest restWords]

end Text

/-! ### Attributes joined by blanks -/

namespace Attributes

/-- The groups of attributes, each with its parentheses. -/
def groups (text : Text) : List Text :=
  (Piece.ofText text).filterMap fun
    | .bare _ => none
    | .group characters => some characters

theorem pieces_words (text : Text) (onlyWords : Text.OnlyWords text) :
    Piece.ofText text = [.bare text] :=
  cut_of_not_mem text (onlyWords.not_mem '(' rfl rfl)

theorem pieces_group (text inside rest : Text) (onlyWords : Text.OnlyWords text)
    (closes : Closes .direct inside) :
    Piece.ofText (text ++ '(' :: (inside ++ rest)) =
      .bare text :: .group ('(' :: inside) :: Piece.ofText rest :=
  cut_group text inside rest (onlyWords.not_mem '(' rfl rfl) closes

theorem Whole.append_space {first second : Text} (firstWhole : Whole first)
    (secondWhole : Whole second) : Whole (first ++ ' ' :: second) :=
  firstWhole.append (secondWhole.cons (Text.onlyWords_blank ' ' rfl))

/-- Words in front of attributes belong to their first piece. -/
theorem Whole.exists_pieces_append {second : Text} (whole : Whole second) :
    ∃ head back, Piece.ofText second = .bare head :: back ∧
      ∀ words, Text.OnlyWords words →
        Piece.ofText (words ++ second) = .bare (words ++ head) :: back := by
  cases whole with
  | words second secondWords =>
    exact ⟨second, [], pieces_words second secondWords, fun words onlyWords =>
      pieces_words _ (onlyWords.append secondWords)⟩
  | group other inside rest otherWords closes whole =>
    refine ⟨other, _, pieces_group other inside rest otherWords closes, fun words onlyWords => ?_⟩
    rw [← List.append_assoc]
    exact pieces_group _ inside rest (onlyWords.append otherWords) closes

/-- The pieces of attributes that are joined by a blank are those of either part, except that the
blank makes one piece of the words at the border. The induction takes the groups off the first
part. -/
theorem exists_pieces_append_space {first second : Text} (firstWhole : Whole first)
    (secondWhole : Whole second) :
    ∃ front last head back, Piece.ofText first = front ++ [.bare last] ∧
      Piece.ofText second = .bare head :: back ∧
      Piece.ofText (first ++ ' ' :: second) = front ++ .bare (last ++ ' ' :: head) :: back := by
  induction firstWhole with
  | words text onlyWords =>
    obtain ⟨head, back, pieces, further⟩ := secondWhole.exists_pieces_append
    have spaced := further (text ++ [' ']) (onlyWords.append (Text.onlyWords_blank ' ' rfl))
    rw [List.append_assoc, List.append_assoc] at spaced
    exact ⟨[], text, head, back, pieces_words text onlyWords, pieces, spaced⟩
  | group text inside rest onlyWords closes whole inductionHypothesis =>
    obtain ⟨front, last, head, back, firstPieces, secondPieces, joinedPieces⟩ := inductionHypothesis
    have joined : text ++ '(' :: (inside ++ rest) ++ ' ' :: second =
        text ++ '(' :: (inside ++ (rest ++ ' ' :: second)) := by
      simp only [List.append_assoc, List.cons_append]
    refine ⟨.bare text :: .group ('(' :: inside) :: front, last, head, back, ?_, secondPieces, ?_⟩
    · rw [pieces_group text inside rest onlyWords closes, firstPieces]
      rfl
    · rw [joined, pieces_group text inside _ onlyWords closes, joinedPieces]
      rfl

section Appending

variable (first second : Text) (firstWhole : Whole first) (secondWhole : Whole second)

include firstWhole secondWhole

theorem bareWords_append_space :
    bareWords (first ++ ' ' :: second) = bareWords first ++ ' ' :: bareWords second := by
  obtain ⟨front, last, head, back, firstPieces, secondPieces, joinedPieces⟩ :=
    exists_pieces_append_space firstWhole secondWhole
  rw [bareWords, bareWords, bareWords, firstPieces, secondPieces, joinedPieces,
    List.filterMap_append, List.filterMap_append]
  exact Text.join_append_space _ _ last head

theorem groups_append_space : groups (first ++ ' ' :: second) = groups first ++ groups second := by
  obtain ⟨front, last, head, back, firstPieces, secondPieces, joinedPieces⟩ :=
    exists_pieces_append_space firstWhole secondWhole
  rw [groups, groups, groups, firstPieces, secondPieces, joinedPieces, List.filterMap_append,
    List.filterMap_append]
  exact congrArg (· ++ _) (List.append_nil _).symm

end Appending

theorem Whole.onlyWords_of_mem_pieces {text : Text} (whole : Whole text) (characters : Text)
    (member : .bare characters ∈ Piece.ofText text) : Text.OnlyWords characters := by
  induction whole with
  | words text onlyWords =>
    rw [pieces_words text onlyWords, List.mem_singleton] at member
    cases member
    exact onlyWords
  | group text inside rest onlyWords closes whole inductionHypothesis =>
    rw [pieces_group text inside rest onlyWords closes, List.mem_cons, List.mem_cons] at member
    rcases member with same | same | inRest
    · cases same
      exact onlyWords
    · cases same
    · exact inductionHypothesis inRest

theorem Whole.onlyWords_bareWords {text : Text} (whole : Whole text) :
    Text.OnlyWords (bareWords text) := by
  refine Text.holds_join Text.OnlyWords onlyWords_nil
    (fun _ _ firstWords restWords => firstWords.append_space restWords) _ fun bare member => ?_
  obtain ⟨piece, inPieces, isBare⟩ := List.mem_filterMap.mp member
  cases piece with
  | group characters => cases isBare
  | bare characters =>
    cases isBare
    exact whole.onlyWords_of_mem_pieces bare inPieces

/-- Texts keep apart where they are joined by blanks: the bare words of the joined text are those of
each text in turn, none of them run together, and so are its groups. -/
structure KeepApart (texts : List Text) : Prop where
  bareWords : bareWords (Text.join " " texts) = Text.join " " (texts.map bareWords)
  words : Text.wordRuns (Attributes.bareWords (Text.join " " texts)) =
    texts.flatMap fun text => Text.wordRuns (Attributes.bareWords text)
  groups : groups (Text.join " " texts) = texts.flatMap groups

theorem bareWords_join (texts : List Text) (whole : ∀ text ∈ texts, Whole text) :
    bareWords (Text.join " " texts) = Text.join " " (texts.map bareWords) := by
  induction texts with
  | nil => rfl
  | cons first texts inductionHypothesis =>
    obtain ⟨here, further⟩ := List.forall_mem_cons.mp whole
    cases texts with
    | nil => rfl
    | cons second texts =>
      have behind := Text.holds_join Whole whole_nil
        (fun _ _ firstWhole restWhole => firstWhole.append_space restWhole) _ further
      rw [Text.join_space first _ (List.cons_ne_nil second texts),
        bareWords_append_space first _ here behind, inductionHypothesis further]
      exact (Text.join_space _ _ (List.cons_ne_nil _ _)).symm

/-- Attributes to their end keep apart. -/
theorem keepApart_of_whole (texts : List Text) (whole : ∀ text ∈ texts, Whole text) :
    KeepApart texts where
  bareWords := bareWords_join texts whole
  words := by
    have onlyWords : ∀ bare ∈ texts.map Attributes.bareWords, Text.OnlyWords bare := by
      intro bare member
      obtain ⟨text, inTexts, rfl⟩ := List.mem_map.mp member
      exact (whole text inTexts).onlyWords_bareWords
    rw [bareWords_join texts whole, Text.wordRuns_join _ onlyWords, List.flatMap_map]
  groups := Text.flatMap_join Whole whole_nil
    (fun _ _ firstWhole restWhole => firstWhole.append_space restWhole) groups rfl
    groups_append_space texts whole

/-- What joined attributes say is said by one of them. -/
theorem KeepApart.say_join {texts : List Text} (apart : KeepApart texts) (keyword : Text) :
    say keyword (Text.join " " texts) = texts.any (say keyword) := by
  rw [say, apart.bareWords, Text.hasWord_join, List.any_map]
  rfl

/-- What texts say of storage, each searched on its own: VIRTUAL, or neither STORED nor
PERSISTENT. -/
def togetherVirtual (texts : List Text) : Bool :=
  texts.any (say "virtual") || !(texts.any (say "stored") || texts.any (say "persistent"))

theorem KeepApart.declareVirtual_join {texts : List Text} (apart : KeepApart texts) :
    declareVirtual (Text.join " " texts) = togetherVirtual texts :=
  congrArg₂ or (apart.say_join "virtual")
    (congrArg not (congrArg₂ or (apart.say_join "stored") (apart.say_join "persistent")))

theorem togetherVirtual_perm {first second : List Text} (same : first.Perm second) :
    togetherVirtual first = togetherVirtual second := by
  rw [togetherVirtual, togetherVirtual, same.any_eq, same.any_eq, same.any_eq]

end Attributes

/-! ### The order of the tokens -/

namespace Column

/-- The texts of the tokens of some kinds, in the order of the kinds. A kind without a token is left
out. -/
def tokenTexts (kinds : List TokenKind) (column : Column) : List Text :=
  kinds.filterMap fun kind => column.tokenText? kind

theorem tokenTexts_ofParts (offset : Int) (head : Head) (expression : Text) (tail : Tail) :
    (ofParts offset head expression tail).tokenTexts [.attributes, .trailingAttributes] =
      [tail.attributes, tail.trailing].filter fun text => !text.isEmpty := by
  rw [tokenTexts, List.filterMap_cons, List.filterMap_cons, tokenText?_ofParts, tokenText?_ofParts]
  cases tail.attributes <;> cases tail.trailing <;> rfl

/-- The storage of a column is read off its attributes and those behind its comment alike in either
order: it is what their words say, searched apart, since in either order the words and the groups
of the one keep apart from those of the other. -/
theorem isVirtual_eq_declareVirtual_join (offset : Int) (fragment : Text) (column : Column)
    (parsed : parse? offset fragment = some column) (order : List TokenKind)
    (ordered : order.Perm [.attributes, .trailingAttributes]) :
    Attributes.declareVirtual (Text.join " " (column.tokenTexts order)) = column.isVirtual ∧
      column.isVirtual = Attributes.togetherVirtual (column.tokenTexts order) ∧
      Attributes.KeepApart (column.tokenTexts order) := by
  obtain ⟨head, expression, tail, _, rfl, _, formed⟩ :=
    exists_formed_of_parse? offset fragment column parsed
  have same := ordered.filterMap fun kind =>
    (ofParts offset head expression tail).tokenText? kind
  have whole : ∀ text ∈ (ofParts offset head expression tail).tokenTexts
      [.attributes, .trailingAttributes], Attributes.Whole text := by
    intro text member
    rw [tokenTexts_ofParts] at member
    have isPart := (List.mem_filter.mp member).1
    simp only [List.mem_cons, List.not_mem_nil, or_false] at isPart
    rcases isPart with rfl | rfl
    · exact formed.whole.1
    · exact formed.whole.2
  have apart := Attributes.keepApart_of_whole _ whole
  have apartHere := Attributes.keepApart_of_whole _ fun text member =>
    whole text (same.mem_iff.mp member)
  have storage : (ofParts offset head expression tail).isVirtual =
      Attributes.togetherVirtual ((ofParts offset head expression tail).tokenTexts order) := by
    have written : (ofParts offset head expression tail).isVirtual =
        Attributes.declareVirtual (attributeText (ofParts offset head expression tail).tokens) :=
      rfl
    rw [written, attributeText_ofParts, ← tokenTexts_ofParts offset head expression,
      apart.declareVirtual_join]
    exact (Attributes.togetherVirtual_perm same).symm
  exact ⟨apartHere.declareVirtual_join.trans storage.symm, storage, apartHere⟩

/-- Words that would run together, and a parenthesis in a literal, with the attributes behind the
comment taken first. -/
theorem isVirtual_eq_declareVirtual_join_trailing :
    ∃ column, parse? 0 "`a` int AS (1)IRTUAL STORED CHECK (`a` <> '(') COMMENT 'x' KEY V" =
        some column ∧
      column.tokenTexts [.trailingAttributes, .attributes] =
        [(" KEY V" : Text), "IRTUAL STORED CHECK (`a` <> '(') "] ∧
      column.isVirtual = false ∧
      Attributes.declareVirtual
        (Text.join " " (column.tokenTexts [.trailingAttributes, .attributes])) = false ∧
      Attributes.KeepApart (column.tokenTexts [.trailingAttributes, .attributes]) := by
  let column : Column :=
    { definition := "`a` int AS (1)IRTUAL STORED CHECK (`a` <> '(') COMMENT 'x' KEY V"
      name := "a"
      isVirtual := false
      tokens := [⟨.dataType, " int ", 3⟩, ⟨.expression, "AS (1)", 8⟩,
        ⟨.attributes, "IRTUAL STORED CHECK (`a` <> '(') ", 14⟩, ⟨.comment, "COMMENT 'x'", 47⟩,
        ⟨.trailingAttributes, " KEY V", 58⟩] }
  have parsed : parse? 0 "`a` int AS (1)IRTUAL STORED CHECK (`a` <> '(') COMMENT 'x' KEY V" =
      some column := by
    decide +kernel
  obtain ⟨read, _, apart⟩ := isVirtual_eq_declareVirtual_join 0 _ column parsed
    [.trailingAttributes, .attributes] (List.Perm.swap _ _ [])
  exact ⟨column, parsed, rfl, rfl, read, apart⟩

end Column

end DumpRestore
