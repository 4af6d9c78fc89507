/-
This file proves what is read behind the expression of a column: attributes, perhaps a comment, and
attributes behind it. Nothing of the text is lost. What is read is well formed, and a well-formed
tail is read back as it is; the comment may hold anything, as long as its quote is written twice in
it.
-/

import DumpRestore.Column.Tail
import DumpRestore.Proofs.Column.Attributes
import DumpRestore.Proofs.Identifier

namespace DumpRestore

/-! ### The literal of a comment -/

/-- A mark written twice is visible, so that squeezing leaves it alone. -/
theorem Text.squeeze_double (mark : Char) (content : Text) (visible : isBlank mark = false) :
    squeeze (double mark content) = double mark (squeeze content) := by
  induction content with
  | nil => rfl
  | cons character content inductionHypothesis =>
    by_cases same : character = mark
    · subst same
      rw [double_cons_self, squeeze_cons_visible character _ visible,
        squeeze_cons_visible character _ visible, inductionHypothesis,
        squeeze_cons_visible character content visible, double_cons_self]
    · rw [double_cons_of_ne _ _ _ same]
      cases blank : isBlank character with
      | false =>
        rw [squeeze_cons_visible character _ blank, inductionHypothesis,
          squeeze_cons_visible character content blank, double_cons_of_ne _ _ _ same]
      | true =>
        have starts : startsBlank (double mark content) = startsBlank content := by
          cases content with
          | nil => rfl
          | cons first content =>
            by_cases isMark : first = mark
            · rw [isMark, double_cons_self]
              rfl
            · rw [double_cons_of_ne _ _ _ isMark]
              rfl
        have space : ' ' ≠ mark := by
          rintro rfl
          cases visible
        cases continues : startsBlank content with
        | true =>
          rw [squeeze_cons_blanks character _ blank (starts.trans continues),
            squeeze_cons_blanks character content blank continues, inductionHypothesis]
        | false =>
          rw [squeeze_cons_blank character _ blank (starts.trans continues),
            squeeze_cons_blank character content blank continues,
            double_cons_of_ne _ _ _ space, inductionHypothesis]

namespace Tail

/-- The literal of a text in which every quote is written twice ends with its closing quote. -/
theorem literalLength?_double (quote : Char) (content rest : Text)
    (ends : rest.head? ≠ some quote) :
    literalLength? quote (Text.double quote content ++ quote :: rest) =
      some ((Text.double quote content).length + 1) := by
  induction content with
  | nil =>
    rw [Text.double_nil, List.nil_append]
    cases rest with
    | nil => rw [literalLength?, if_pos rfl]; rfl
    | cons next rest =>
      have other : next ≠ quote := fun same => ends (congrArg some same)
      rw [literalLength?, if_pos rfl, if_neg other]
      rfl
  | cons character content inductionHypothesis =>
    by_cases same : character = quote
    · subst same
      rw [Text.double_cons_self, List.cons_append, List.cons_append, literalLength?.eq_def]
      refine (if_pos rfl).trans ((if_pos rfl).trans ?_)
      rw [inductionHypothesis]
      rfl
    · rw [Text.double_cons_of_ne _ _ _ same, List.cons_append, literalLength?.eq_def]
      refine (if_neg same).trans ?_
      rw [inductionHypothesis]
      rfl

/-- A literal that is found is a text with its quote written twice, up to a closing quote. -/
theorem exists_double_of_literalLength? (quote : Char) (text : Text) (length : Nat)
    (found : literalLength? quote text = some length) :
    ∃ content rest, text = Text.double quote content ++ quote :: rest ∧
      length = (Text.double quote content).length + 1 := by
  fun_induction literalLength? quote text generalizing length with
  | case1 => cases found
  | case2 =>
    cases found
    exact ⟨[], [], rfl, rfl⟩
  | case3 after further read inductionHypothesis =>
    cases found
    obtain ⟨content, rest, rfl, rfl⟩ := inductionHypothesis further read
    refine ⟨quote :: content, rest, ?_, ?_⟩
    · rw [Text.double_cons_self, List.cons_append, List.cons_append]
    · rw [Text.double_cons_self, List.length_cons, List.length_cons]
  | case4 after _ =>
    cases found
    exact ⟨[], quote :: after, rfl, rfl⟩
  | case5 next after _ =>
    cases found
    exact ⟨[], next :: after, rfl, rfl⟩
  | case6 character rest other inductionHypothesis =>
    obtain ⟨further, read, rfl⟩ := Option.map_eq_some_iff.mp found
    obtain ⟨content, after, rfl, rfl⟩ := inductionHypothesis further read
    refine ⟨character :: content, after, ?_, ?_⟩
    · rw [Text.double_cons_of_ne _ _ _ other, List.cons_append]
    · rw [Text.double_cons_of_ne _ _ _ other, List.length_cons]

end Tail

/-! ### Comments -/

/-- A comment as it is written: the keyword COMMENT, blanks, and a literal in which its quote is
written twice. The keyword is read backwards, as the reader does. -/
structure Comment where
  keyword : Text
  spelled : Text.isKeyword "tnemmoc" keyword.reverse = true
  blanks : Text
  blank : ∀ character ∈ blanks, Text.isBlank character = true
  quote : Char
  isQuote : Tail.isCommentQuote quote = true
  content : Text

namespace Comment

variable (comment : Comment)

/-- The keyword and the blanks behind it. -/
def lead : Text :=
  comment.keyword ++ comment.blanks

/-- The literal in its quotes. -/
def literal : Text :=
  comment.quote :: (Text.double comment.quote comment.content ++ [comment.quote])

/-- The comment from its keyword to its closing quote. -/
def text : Text :=
  comment.lead ++ comment.literal

theorem inWord_keyword : ∀ character ∈ comment.keyword, Text.isWordChar character = true :=
  fun character member => (Text.inWord_of_isKeyword "tnemmoc" _ rfl comment.spelled).2 character
    (List.mem_reverse.mpr member)

theorem keyword_ne_nil : comment.keyword ≠ [] := by
  intro empty
  have spelled := comment.spelled
  rw [empty] at spelled
  cases spelled

theorem onlyWords_lead : Text.OnlyWords comment.lead := by
  intro character member
  rcases List.mem_append.mp member with inKeyword | inBlanks
  · exact Or.inl (comment.inWord_keyword character inKeyword)
  · exact Or.inr (comment.blank character inBlanks)

/-- The quote belongs to no word, is no blank and opens no group. -/
theorem quote_marks : Text.isWordChar comment.quote = false ∧
    Text.isBlank comment.quote = false ∧ comment.quote ≠ '(' := by
  have isQuote := comment.isQuote
  rw [Tail.isCommentQuote, Bool.or_eq_true, beq_iff_eq, beq_iff_eq] at isQuote
  rcases isQuote with same | same <;> rw [same] <;> exact ⟨rfl, rfl, by decide⟩

/-- The keyword is found at the end of attributes. -/
theorem beforeComment?_append (before : Text) :
    Tail.beforeComment? (before ++ comment.lead) = some before.length := by
  have reversed : (before ++ comment.lead).reverse =
      comment.blanks.reverse ++ (comment.keyword.reverse ++ before.reverse) := by
    simp only [lead, List.reverse_append, List.append_assoc]
  obtain ⟨first, rest, equal⟩ := List.exists_cons_of_ne_nil
    (List.reverse_eq_nil_iff.not.mpr comment.keyword_ne_nil)
  have visible : Text.isBlank first = false := by
    refine Text.isBlank_of_isWordChar first (comment.inWord_keyword first ?_)
    rw [← List.mem_reverse, equal]
    exact List.mem_cons_self
  have skipped : (comment.blanks.reverse ++ (comment.keyword.reverse ++ before.reverse)).dropWhile
      Text.isBlank = comment.keyword.reverse ++ before.reverse := by
    have blank : ∀ character ∈ comment.blanks.reverse, Text.isBlank character = true :=
      fun character member => comment.blank character (List.mem_reverse.mp member)
    rw [List.dropWhile_append_of_pos blank, equal, List.cons_append, List.dropWhile_cons, visible,
      if_neg Bool.false_ne_true]
  rw [Tail.beforeComment?, reversed, skipped,
    Text.keyword?_append_of_isKeyword "tnemmoc" _ _ comment.spelled, Option.map_some,
    List.length_reverse]

theorem commentLiteralLength?_append (rest : Text) (ends : rest.head? ≠ some comment.quote) :
    Tail.commentLiteralLength? (comment.literal ++ rest) = some comment.literal.length := by
  rw [literal, List.cons_append, List.append_assoc, List.singleton_append,
    Tail.commentLiteralLength?, if_pos comment.isQuote,
    Tail.literalLength?_double comment.quote _ rest ends, List.length_cons, List.length_append]
  rfl

theorem trimmed_text : Text.Trimmed comment.text := by
  obtain ⟨first, rest, equal⟩ := List.exists_cons_of_ne_nil comment.keyword_ne_nil
  constructor
  · intro character member
    rw [text, lead, equal] at member
    cases member
    have inWord := comment.inWord_keyword first (equal ▸ List.mem_cons_self)
    exact Text.isBlank_of_isWordChar first inWord
  · intro character member
    rw [text, literal, ← List.cons_append, ← List.append_assoc, List.getLast?_concat] at member
    cases member
    exact comment.quote_marks.2.1

theorem text_ne_nil : comment.text ≠ [] :=
  List.append_ne_nil_of_right_ne_nil _ (List.cons_ne_nil _ _)

/-- The comment with its blanks squeezed, those in the literal included. -/
def squeezed : Comment :=
  { comment with
    blanks := Text.squeeze comment.blanks
    blank := by
      cases equal : comment.blanks with
      | nil =>
        intro character member
        cases member
      | cons first rest =>
        rw [← equal, Text.squeeze_blanks _ (equal ▸ List.cons_ne_nil first rest) comment.blank]
        intro character member
        rw [List.mem_singleton.mp member]
        rfl
    content := Text.squeeze comment.content }

theorem text_squeezed : comment.squeezed.text = Text.squeeze comment.text := by
  obtain ⟨_, visible, _⟩ := comment.quote_marks
  have keywordSolid : Text.Solid comment.keyword :=
    ⟨comment.keyword_ne_nil, fun character member =>
      Text.isBlank_of_isWordChar character (comment.inWord_keyword character member)⟩
  have leads : Text.squeeze comment.lead = comment.keyword ++ Text.squeeze comment.blanks := by
    have parts := Text.squeeze_append_trimmed [] comment.keyword comment.blanks
      keywordSolid.trimmed keywordSolid.nonempty
    rwa [keywordSolid.squeeze] at parts
  rw [text, text, lead, literal, literal,
    Text.squeeze_append_cons comment.lead _ comment.quote visible,
    Text.squeeze_append_cons _ [] comment.quote visible, leads,
    Text.squeeze_double comment.quote comment.content visible]
  rfl

end Comment

/-! ### The tail -/

namespace Tail

/-- A tail stands at the start of the text it was read from. -/
theorem ofText_append (text : Text) :
    ∃ rest, text = (ofText text).attributes ++ (ofText text).comment ++
      (ofText text).trailing ++ rest := by
  have whole := Attributes.split_append text
  unfold ofText
  split
  rename_i attributes rest cut
  rw [cut] at whole
  split
  · rename_i before length _ _
    have further := Attributes.split_append (rest.drop length)
    generalize Attributes.split (rest.drop length) = trailing at further ⊢
    refine ⟨trailing.2, ?_⟩
    calc text = attributes.take before ++ attributes.drop before ++
          (rest.take length ++ (trailing.1 ++ trailing.2)) := by
            rw [further, List.take_append_drop, List.take_append_drop, whole]
      _ = _ := by
            simp only [List.append_assoc]
  · refine ⟨rest, ?_⟩
    rw [List.append_nil, List.append_nil, whole]

/-- A well-formed tail: attributes, and perhaps a comment with attributes behind it. -/
inductive Formed : Tail → Prop
  | bare (attributes : Text) (whole : Attributes.Whole attributes) : Formed ⟨attributes, [], []⟩
  | commented (attributes : Text) (comment : Comment) (trailing : Text)
      (whole : Attributes.Whole attributes) (trailingWhole : Attributes.Whole trailing) :
      Formed ⟨attributes, comment.text, trailing⟩

theorem Formed.whole {tail : Tail} (formed : Formed tail) :
    Attributes.Whole tail.attributes ∧ Attributes.Whole tail.trailing := by
  cases formed with
  | bare attributes whole => exact ⟨whole, Attributes.whole_nil⟩
  | commented attributes comment trailing whole trailingWhole => exact ⟨whole, trailingWhole⟩

/-- A tail that is read is well formed. -/
theorem formed_ofText (text : Text) : Formed (ofText text) := by
  have whole := Attributes.whole_split text
  unfold ofText
  split
  rename_i attributes rest cut
  rw [cut] at whole
  split
  · rename_i before length keyword literal
    obtain ⟨behind, read, rfl⟩ := Option.map_eq_some_iff.mp keyword
    obtain ⟨backwards, equal, spelled⟩ := Text.exists_isKeyword "tnemmoc" _ behind read
    obtain ⟨blanks, split, blank⟩ := Text.exists_blanks attributes.reverse
    rw [Text.skipBlanks, equal] at split
    have parts : attributes = behind.reverse ++ (backwards.reverse ++ blanks.reverse) := by
      rw [← List.reverse_reverse attributes, split]
      simp only [List.reverse_append, List.append_assoc]
    cases rest with
    | nil => cases literal
    | cons quote rest =>
      rw [commentLiteralLength?] at literal
      split at literal
      · rename_i isQuote
        obtain ⟨closing, found, rfl⟩ := Option.map_eq_some_iff.mp literal
        obtain ⟨content, after, rfl, rfl⟩ := exists_double_of_literalLength? quote rest closing found
        let comment : Comment :=
          { keyword := backwards.reverse
            spelled := by rwa [List.reverse_reverse]
            blanks := blanks.reverse
            blank := fun character member => blank character (List.mem_reverse.mp member)
            quote, isQuote, content }
        have literal : quote :: (Text.double quote content ++ quote :: after) =
            comment.literal ++ after := by
          show _ = quote :: (Text.double quote content ++ [quote]) ++ after
          rw [List.cons_append, List.append_assoc, List.singleton_append]
        have literalLength : (Text.double quote content).length + 1 + 1 =
            comment.literal.length := by
          show _ = (quote :: (Text.double quote content ++ [quote])).length
          rw [List.length_cons, List.length_append]
          rfl
        have shorter : Attributes.Whole behind.reverse := by
          rw [parts] at whole
          exact whole.of_append comment.onlyWords_lead
        have formed := Formed.commented behind.reverse comment _ shorter
          (Attributes.whole_split after)
        rw [literal, literalLength, List.take_left, List.drop_left, parts,
          ← List.length_reverse, List.take_left, List.drop_left]
        exact formed
      · cases literal
  · exact .bare attributes whole

/-- A well-formed tail is read back. -/
theorem Formed.ofText_append {tail : Tail} (formed : Formed tail) :
    ofText (tail.attributes ++ (tail.comment ++ tail.trailing)) = tail := by
  cases formed with
  | bare attributes whole =>
    have read := whole.split_append [] rfl
    unfold ofText
    rw [List.append_nil, read]
    dsimp only
    split
    · rename_i _ impossible
      cases impossible
    · rfl
  | commented attributes comment trailing whole trailingWhole =>
    obtain ⟨gap, visible, notOpen⟩ := comment.quote_marks
    have stops : Attributes.runLength 0 (comment.literal ++ trailing) = 0 := by
      rw [Comment.literal, List.cons_append, Attributes.runLength, gap, visible, if_neg notOpen]
      rfl
    have first := (whole.append (.words comment.lead comment.onlyWords_lead)).split_append
      (comment.literal ++ trailing) stops
    have ends := trailingWhole.head?_ne comment.quote gap visible notOpen
    have second := trailingWhole.split_append [] rfl
    rw [List.append_nil] at second
    have parts : attributes ++ (comment.text ++ trailing) =
        attributes ++ comment.lead ++ (comment.literal ++ trailing) := by
      simp only [Comment.text, List.append_assoc]
    unfold ofText
    dsimp only
    rw [parts, first]
    dsimp only
    rw [comment.beforeComment?_append, comment.commentLiteralLength?_append trailing ends]
    dsimp only
    rw [List.take_left, List.drop_left, List.take_left, List.drop_left, second]
    rfl

theorem ofText_of_onlyWords (words : Text) (onlyWords : Text.OnlyWords words) :
    ofText words = { attributes := words, comment := [], trailing := [] } := by
  have read := (Formed.bare words (.words words onlyWords)).ofText_append
  rwa [List.append_nil, List.append_nil] at read

/-- The parts of a tail that has a comment in apostrophes. -/
theorem ofText_comment (before content trailing : Text) (beforeWords : Text.OnlyWords before)
    (trailingWords : Text.OnlyWords trailing) :
    ofText (before ++ ("COMMENT " ++ '\'' :: (Text.double '\'' content ++ '\'' :: trailing))) =
      { attributes := before
        comment := "COMMENT " ++ '\'' :: (Text.double '\'' content ++ ['\''])
        trailing } := by
  let comment : Comment :=
    { keyword := "COMMENT", spelled := by decide, blanks := " "
      blank := List.forall_mem_singleton.mpr rfl
      quote := '\'', isQuote := rfl, content }
  have read := (Formed.commented before comment trailing (.words before beforeWords)
    (.words trailing trailingWords)).ofText_append
  refine Eq.trans (congrArg (fun rest => ofText (before ++ rest)) ?_) read
  show _ = "COMMENT ".toList ++ '\'' :: (Text.double '\'' content ++ ['\'']) ++ trailing
  simp only [List.append_assoc, List.cons_append, List.nil_append]

end Tail

end DumpRestore
