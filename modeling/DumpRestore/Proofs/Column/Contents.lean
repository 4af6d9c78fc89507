/-
This file describes what attributes hold: words, and groups between them. Blanks at the ends may be
taken away and all others be squeezed without a word or a group changing its place, and rewriting
the text between the groups rewrites the words there. What attributes say is said by their words.
-/

import DumpRestore.Proofs.Column.Attributes
import DumpRestore.Proofs.Text.WordRuns

namespace DumpRestore.Attributes

/-! ### Words and groups -/

/-- What a piece of attributes says: words, or the text of a group with its blanks collapsed. -/
inductive Content where
  | bare (words : List Text)
  | group (text : Text)
deriving Repr, DecidableEq

/-- The content with its words rewritten. A group is kept. -/
def Content.map (rewrite : List Text → List Text) : Content → Content
  | .bare words => .bare (rewrite words)
  | .group text => .group text

/-- Whether a keyword is one of the words. -/
def Content.hasWord (keyword : Text) : Content → Bool
  | .bare words => words.any (Text.isKeyword keyword)
  | .group _ => false

def Piece.content : Piece → Content
  | .bare text => .bare (Text.wordRuns text)
  | .group text => .group (Text.collapse text)

/-- The words of attributes and the groups between them, in order. -/
def contents (text : Text) : List Content :=
  (Piece.ofText text).map Piece.content

theorem contents_words (text : Text) (onlyWords : Text.OnlyWords text) :
    contents text = [.bare (Text.wordRuns text)] := by
  rw [contents, Piece.ofText, cut_of_not_mem text (onlyWords.not_mem '(' rfl rfl)]
  rfl

theorem contents_group (text inside rest : Text) (onlyWords : Text.OnlyWords text)
    (closes : Closes .direct inside) :
    contents (text ++ '(' :: (inside ++ rest)) =
      .bare (Text.wordRuns text) :: .group (Text.collapse ('(' :: inside)) :: contents rest := by
  rw [contents, cut_group text inside rest (onlyWords.not_mem '(' rfl rfl) closes]
  rfl

/-- Rewriting the text between groups rewrites the words there and keeps the groups. -/
theorem contents_mapBare (rewrite : Text → Text) (rewriteWords : List Text → List Text)
    (text : Text) (whole : Whole text)
    (keeps : ∀ words, Text.OnlyWords words → Text.OnlyWords (rewrite words))
    (follows : ∀ words, Text.OnlyWords words →
      Text.wordRuns (rewrite words) = rewriteWords (Text.wordRuns words)) :
    contents (mapBare rewrite text) = (contents text).map (Content.map rewriteWords) := by
  induction whole with
  | words text onlyWords =>
    rw [mapBare_words rewrite text onlyWords, contents_words _ (keeps text onlyWords),
      follows text onlyWords, contents_words text onlyWords]
    rfl
  | group text inside rest onlyWords closes whole inductionHypothesis =>
    rw [mapBare_group rewrite text inside rest onlyWords closes,
      contents_group _ inside _ (keeps text onlyWords) closes, follows text onlyWords,
      inductionHypothesis, contents_group text inside rest onlyWords closes]
    rfl

theorem contents_cons_blank (character : Char) (text : Text) (whole : Whole text)
    (blank : Text.isBlank character = true) : contents (character :: text) = contents text := by
  have blankWords := Text.onlyWords_blank character blank
  have sameWords (words : Text) (onlyWords : Text.OnlyWords words) :
      Text.wordRuns (character :: words) = Text.wordRuns words := by
    rw [Text.wordRuns_eq_words words onlyWords, ← Text.words_cons_blank character words blank]
    exact Text.wordRuns_eq_words (character :: words) (blankWords.append onlyWords)
  cases whole with
  | words text onlyWords =>
    rw [contents_words text onlyWords, ← sameWords text onlyWords]
    exact contents_words (character :: text) (blankWords.append onlyWords)
  | group text inside rest onlyWords closes whole =>
    rw [contents_group text inside rest onlyWords closes, ← sameWords text onlyWords]
    exact contents_group (character :: text) inside rest (blankWords.append onlyWords) closes

theorem contents_blanks_append (blanks text : Text) (whole : Whole text)
    (blank : ∀ character ∈ blanks, Text.isBlank character = true) :
    contents (blanks ++ text) = contents text := by
  induction blanks with
  | nil => rfl
  | cons character blanks inductionHypothesis =>
    have further : ∀ other ∈ blanks, Text.isBlank other = true := fun other member =>
      blank other (List.mem_cons_of_mem character member)
    have blanksWhole : Whole blanks := .words blanks fun other member =>
      Or.inr (further other member)
    rw [List.cons_append, contents_cons_blank character _ (blanksWhole.append whole)
      (blank character List.mem_cons_self), inductionHypothesis further]

theorem contents_append_blanks (text blanks : Text) (whole : Whole text)
    (blank : ∀ character ∈ blanks, Text.isBlank character = true) :
    contents (text ++ blanks) = contents text := by
  have blankWords : Text.OnlyWords blanks := fun character member => Or.inr (blank character member)
  induction whole with
  | words text onlyWords =>
    rw [contents_words _ (onlyWords.append blankWords), contents_words text onlyWords,
      Text.wordRuns_eq_words _ (onlyWords.append blankWords), Text.words_append_blanks text _ blank,
      Text.wordRuns_eq_words text onlyWords]
  | group text inside rest onlyWords closes whole inductionHypothesis =>
    have joined : text ++ '(' :: (inside ++ rest) ++ blanks =
        text ++ '(' :: (inside ++ (rest ++ blanks)) := by
      simp only [List.append_assoc, List.cons_append]
    rw [joined, contents_group text inside _ onlyWords closes, inductionHypothesis,
      contents_group text inside rest onlyWords closes]

theorem contents_trim (text : Text) (whole : Whole text) :
    contents (Text.trim text) = contents text := by
  obtain ⟨lead, tail, equal, leadBlank, tailBlank⟩ := Text.exists_trim text
  have tailWhole : Whole tail := .words tail fun character member =>
    Or.inr (tailBlank character member)
  have read := congrArg contents equal
  rw [List.append_assoc, contents_blanks_append lead _ (whole.trim.append tailWhole) leadBlank,
    contents_append_blanks _ tail whole.trim tailBlank] at read
  exact read.symm

theorem contents_squeeze (text : Text) (whole : Whole text) :
    contents (Text.squeeze text) = contents text := by
  induction whole with
  | words text onlyWords =>
    rw [contents_words _ onlyWords.squeeze, Text.wordRuns_squeeze text onlyWords,
      contents_words text onlyWords]
  | group text inside rest onlyWords closes whole inductionHypothesis =>
    have sameGroup :
        Text.collapse ('(' :: Text.squeeze inside) = Text.collapse ('(' :: inside) := by
      rw [← Text.collapse_squeeze ('(' :: inside), Text.squeeze_cons_visible '(' inside rfl]
    rw [squeeze_group text inside rest closes, contents_group _ _ _ onlyWords.squeeze
      (closes.squeeze fun _ impossible => by cases impossible), inductionHypothesis, sameGroup,
      Text.wordRuns_squeeze text onlyWords, contents_group text inside rest onlyWords closes]

/-- Collapsing attributes keeps their words and groups where they are. -/
theorem contents_collapse (text : Text) (whole : Whole text) :
    contents (Text.collapse text) = contents text := by
  rw [Text.collapse_eq, contents_squeeze _ whole.trim, contents_trim text whole]

/-! ### Keywords -/

/-- Whether attributes say a keyword, outside their groups. -/
def say (keyword text : Text) : Bool :=
  Text.hasWord keyword (bareWords text)

section Saying

variable (keyword : Text)

/-- Attributes say what their words say. -/
theorem say_eq_any_contents (text : Text) :
    say keyword text = (contents text).any (Content.hasWord keyword) := by
  rw [say, bareWords, Text.hasWord_join, contents, List.any_map]
  induction Piece.ofText text with
  | nil => rfl
  | cons piece pieces inductionHypothesis =>
    cases piece with
    | group characters => exact inductionHypothesis
    | bare characters =>
      rw [List.any_cons, ← inductionHypothesis]
      exact congrArg (· || _) (Text.hasWord_eq_any_wordRuns keyword characters)

theorem say_words (text : Text) (onlyWords : Text.OnlyWords text) :
    say keyword text = Text.hasWord keyword text := by
  rw [say, bareWords_of_onlyWords text onlyWords]

theorem say_group (text inside rest : Text) (onlyWords : Text.OnlyWords text)
    (closes : Closes .direct inside) :
    say keyword (text ++ '(' :: (inside ++ rest)) =
      (Text.hasWord keyword text || say keyword rest) := by
  rw [say, bareWords, cut_group text inside rest (onlyWords.not_mem '(' rfl rfl) closes,
    Text.hasWord_join, say, bareWords, Text.hasWord_join]
  rfl

/-- Attributes say a keyword where either of two parts does, as long as no word goes on into the
second part. -/
theorem say_append (first second : Text) (firstWhole : Whole first) (secondWhole : Whole second)
    (ends : Text.EndsWord second) :
    say keyword (first ++ second) = (say keyword first || say keyword second) := by
  induction firstWhole with
  | words text onlyWords =>
    rw [say_words keyword text onlyWords]
    cases secondWhole with
    | words _ secondWords =>
      rw [say_words keyword _ (onlyWords.append secondWords), say_words keyword second secondWords,
        Text.hasWord_append_of_endsWord keyword text second ends]
    | group other inside rest otherWords closes whole =>
      have otherEnds : Text.EndsWord other := by
        cases other with
        | nil => exact Text.endsWord_nil
        | cons character other => exact ends
      rw [← List.append_assoc, say_group keyword _ inside rest (onlyWords.append otherWords) closes,
        say_group keyword other inside rest otherWords closes,
        Text.hasWord_append_of_endsWord keyword text other otherEnds, Bool.or_assoc]
  | group text inside rest onlyWords closes whole inductionHypothesis =>
    have joined : text ++ '(' :: (inside ++ rest) ++ second =
        text ++ '(' :: (inside ++ (rest ++ second)) := by
      simp only [List.append_assoc, List.cons_append]
    rw [joined, say_group keyword text inside _ onlyWords closes, inductionHypothesis,
      say_group keyword text inside rest onlyWords closes, Bool.or_assoc]

theorem say_cons_blank (character : Char) (text : Text) (whole : Whole text)
    (blank : Text.isBlank character = true) :
    say keyword (character :: text) = say keyword text := by
  rw [say_eq_any_contents, contents_cons_blank character text whole blank, ← say_eq_any_contents]

theorem say_blanks (blanks : Text) (blank : ∀ character ∈ blanks, Text.isBlank character = true) :
    say keyword blanks = false := by
  rw [← List.append_nil blanks, say_eq_any_contents,
    contents_blanks_append blanks [] whole_nil blank]
  rfl

theorem say_collapse (text : Text) (whole : Whole text) :
    say keyword (Text.collapse text) = say keyword text := by
  rw [say_eq_any_contents, contents_collapse text whole, ← say_eq_any_contents]

/-- Rewriting brings in no keyword where it brings in none among words. -/
theorem say_of_mapBare (rewrite : Text → Text) (text : Text) (whole : Whole text)
    (keeps : ∀ words, Text.OnlyWords words → Text.OnlyWords (rewrite words))
    (before : ∀ words, Text.hasWord keyword (rewrite words) = true →
      Text.hasWord keyword words = true)
    (said : say keyword (mapBare rewrite text) = true) : say keyword text = true := by
  induction whole with
  | words text onlyWords =>
    rw [mapBare_words rewrite text onlyWords, say_words keyword _ (keeps text onlyWords)] at said
    rw [say_words keyword text onlyWords]
    exact before text said
  | group text inside rest onlyWords closes whole inductionHypothesis =>
    rw [mapBare_group rewrite text inside rest onlyWords closes,
      say_group keyword _ inside _ (keeps text onlyWords) closes, Bool.or_eq_true] at said
    rw [say_group keyword text inside rest onlyWords closes, Bool.or_eq_true]
    exact said.imp (before text) inductionHypothesis

/-- Attributes that say a keyword say another one after rewriting where words do. -/
theorem say_mapBare (other : Text) (rewrite : Text → Text) (text : Text) (whole : Whole text)
    (keeps : ∀ words, Text.OnlyWords words → Text.OnlyWords (rewrite words))
    (becomes : ∀ words, Text.hasWord keyword words = true →
      Text.hasWord other (rewrite words) = true)
    (said : say keyword text = true) : say other (mapBare rewrite text) = true := by
  induction whole with
  | words text onlyWords =>
    rw [say_words keyword text onlyWords] at said
    rw [mapBare_words rewrite text onlyWords, say_words other _ (keeps text onlyWords)]
    exact becomes text said
  | group text inside rest onlyWords closes whole inductionHypothesis =>
    rw [say_group keyword text inside rest onlyWords closes, Bool.or_eq_true] at said
    rw [mapBare_group rewrite text inside rest onlyWords closes,
      say_group other _ inside _ (keeps text onlyWords) closes, Bool.or_eq_true]
    exact said.imp (becomes text) inductionHypothesis

/-- Attributes do not say a keyword that rewriting leaves among no words. -/
theorem not_say_mapBare (rewrite : Text → Text) (text : Text) (whole : Whole text)
    (keeps : ∀ words, Text.OnlyWords words → Text.OnlyWords (rewrite words))
    (absent : ∀ words, Text.hasWord keyword (rewrite words) = false) :
    say keyword (mapBare rewrite text) = false := by
  induction whole with
  | words text onlyWords =>
    rw [mapBare_words rewrite text onlyWords, say_words keyword _ (keeps text onlyWords), absent]
  | group text inside rest onlyWords closes whole inductionHypothesis =>
    rw [mapBare_group rewrite text inside rest onlyWords closes,
      say_group keyword _ inside _ (keeps text onlyWords) closes, absent, inductionHypothesis]
    rfl

theorem say_spread_words (text : Text) (whole : Whole text) :
    say keyword (Text.spread (Text.words text)) = say keyword text := by
  rw [← say_collapse keyword text whole, Text.collapse_eq]
  rcases Text.spread_words_cases text with ⟨empty, equal⟩ | equal
  · rw [equal, empty]
    rfl
  · rw [equal, say_cons_blank keyword ' ' _ whole.trim.squeeze rfl]

end Saying

/-- Attributes that say none of some keywords are kept where rewriting keeps words without them. -/
theorem mapBare_eq_self (rewrite : Text → Text) (keywords : List Text) (text : Text)
    (whole : Whole text)
    (same : ∀ words, (∀ keyword ∈ keywords, Text.hasWord keyword words = false) →
      rewrite words = words)
    (silent : ∀ keyword ∈ keywords, say keyword text = false) : mapBare rewrite text = text := by
  induction whole with
  | words text onlyWords =>
    rw [mapBare_words rewrite text onlyWords]
    exact same text fun keyword member =>
      (say_words keyword text onlyWords).symm.trans (silent keyword member)
  | group text inside rest onlyWords closes whole inductionHypothesis =>
    have parts (keyword : Text) (member : keyword ∈ keywords) :
        Text.hasWord keyword text = false ∧ say keyword rest = false := by
      have silentHere := silent keyword member
      rwa [say_group keyword text inside rest onlyWords closes, Bool.or_eq_false_iff] at silentHere
    rw [mapBare_group rewrite text inside rest onlyWords closes,
      same text fun keyword member => (parts keyword member).1,
      inductionHypothesis fun keyword member => (parts keyword member).2]

end DumpRestore.Attributes
