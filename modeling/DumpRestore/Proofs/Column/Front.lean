/-
This file proves what a text in front of a column does to it. Where no head starts in that text, the
column behind it is read as it is without it, its tokens moved by the length of the text; where one
does, another stretch is read in its place.

A comment is such a text. The reader of a table body passes over it and leaves it in the fragment of
the column behind it, but the search for a head knows no comments: a backtick in a comment, single
or in a pair, begins a name there. Behind it the search goes on over the end of the comment, and the
backtick that opens the name of the column closes that name, unless an earlier one does. The
backtick is the character 0x60.
-/

import DumpRestore.Proofs.Column.Positions
import DumpRestore.Proofs.Column.Start
import DumpRestore.Proofs.Table.Places

namespace DumpRestore

namespace Column

/-! ### Text in front of a column -/

/-- Text in which no head starts moves the column behind it, and changes nothing else. -/
theorem parse?_append (offset : Int) (front fragment : Text)
    (noStart : ∀ position < front.length, ¬ Head.Starts ((front ++ fragment).drop position)) :
    parse? offset (front ++ fragment) = (parse? offset fragment).map (moved front.length) := by
  have place (head : Head) : offset + ((front ++ head.before).length : Int) =
      front.length + offset + head.before.length := by
    rw [List.length_append]
    omega
  rw [← parse?_add, parse?, Head.find?_append front fragment noStart, parse?, Option.bind_map]
  refine Option.bind_congr fun head _ => ?_
  simp only [Function.comp_apply, ofParts, place]

theorem Consecutive.moved {start : Int} {tokens : List Token} (consecutive : Consecutive start tokens)
    (distance : Int) : Consecutive (distance + start) (tokens.map fun token =>
      { token with offset := distance + token.offset }) := by
  induction tokens generalizing start with
  | nil => trivial
  | cons first tokens inductionHypothesis =>
    obtain ⟨here, further⟩ := consecutive
    refine ⟨congrArg (distance + ·) here, ?_⟩
    rw [Int.add_assoc]
    exact inductionHypothesis further

theorem StandsBehind.moved {offset : Int} {fragment lead : Text} {column : Column}
    (stands : column.StandsBehind offset fragment lead) (front : Text) :
    (column.moved front.length).StandsBehind offset (front ++ fragment) (front ++ lead) where
  definition := by
    rw [List.append_assoc]
    exact (List.prefix_append_right_inj front).mpr stands.definition
  tokens := by
    have start : offset + ((front ++ lead).length : Int) +
        (Identifier.backquote (column.moved front.length).name).length =
        front.length + (offset + lead.length + (Identifier.backquote column.name).length) := by
      rw [List.length_append, name_moved]
      omega
    rw [start]
    exact stands.tokens.moved front.length
  nonempty := fun empty => stands.nonempty (List.map_eq_nil_iff.mp empty)

/-- A column is moved by a text in front of it exactly if no head starts in that text. -/
theorem parse?_append_iff (offset : Int) (front fragment : Text) (column : Column)
    (parsed : parse? offset fragment = some column) :
    parse? offset (front ++ fragment) = (parse? offset fragment).map (moved front.length) ↔
      ∀ position < front.length, ¬ Head.Starts ((front ++ fragment).drop position) := by
  refine ⟨fun same position within starts => ?_, parse?_append offset front fragment⟩
  rw [parsed, Option.map_some] at same
  obtain ⟨head, _, _, stands⟩ := standsBehind_of_parse? offset fragment column parsed
  obtain ⟨other, found, _, standsToo⟩ := standsBehind_of_parse? offset _ _ same
  obtain ⟨_, leftmost⟩ := Head.starts_of_find? _ other found
  refine leftmost position ?_ starts
  rw [standsToo.unique (stands.moved front), List.length_append]
  omega

end Column

/-! ### Comments -/

/-- A comment as it stands in a table body: between slash-star and star-slash, or from two hyphens to
the end of its line. -/
inductive LeadingComment where
  | block (content : Text) (unclosed : ¬ ['*', '/'] <:+: content)
  | line (content : Text) (oneLine : '\n' ∉ content)

namespace LeadingComment

/-- What the comment says. -/
def content : LeadingComment → Text
  | .block content _ => content
  | .line content _ => content

/-- The marks in front of what it says. -/
def opening : LeadingComment → Text
  | .block _ _ => "/* "
  | .line _ _ => "-- "

/-- The marks behind what it says. -/
def closing : LeadingComment → Text
  | .block _ _ => " */ "
  | .line _ _ => "\n"

/-- The comment as it is written. -/
def text (comment : LeadingComment) : Text :=
  comment.opening ++ (comment.content ++ comment.closing)

/-- A comment is inert in front of a fragment where the fragment is read as it is without it, moved
by the length of the comment. -/
def Inert (comment : LeadingComment) (offset : Int) (fragment : Text) : Prop :=
  Column.parse? offset (comment.text ++ fragment) =
    (Column.parse? offset fragment).map (Column.moved comment.text.length)

/-- A blank in a comment between slash-star and star-slash. -/
theorem step_blank (rest : Text) : TableBody.Step .blockComment [' '] .blockComment rest :=
  .blockComment ' ' rest fun ends => absurd ends.1 (by decide)

/-- A reader of SQL goes through a comment by steps and is in plain SQL again behind it. -/
theorem steps (comment : LeadingComment) (rest : Text) :
    TableBody.Steps .plain comment.text .plain rest := by
  cases comment with
  | block content unclosed =>
    have said : TableBody.Steps .blockComment content .blockComment
        ([' ', '*', '/', ' '] ++ rest) :=
      TableBody.steps_blockComment content _ unclosed fun slash => by cases slash
    have ending : TableBody.Steps .blockComment [' ', '*', '/', ' '] .plain rest :=
      .take (step_blank _) (.take_two (.blockEnd _)
        (.take (.plain ' ' _ rfl (by decide) (by decide) (by decide) rfl) (.stay _ _)))
    show TableBody.Steps .plain ('/' :: '*' :: ' ' :: (content ++ [' ', '*', '/', ' '])) .plain rest
    exact .take_two (.blockOpening _) (.take (step_blank _) (said.append ending))
  | line content oneLine =>
    have said : TableBody.Steps .lineComment ('-' :: ' ' :: content) .lineComment ('\n' :: rest) :=
      TableBody.steps_lineComment _ _ (by simp [oneLine])
    have ending : TableBody.Steps .lineComment ['\n'] .plain rest :=
      .take (.lineComment '\n' rest) (.stay _ _)
    show TableBody.Steps .plain ('-' :: ('-' :: ' ' :: content ++ ['\n'])) .plain rest
    exact .take (.lineOpening '-' _ rfl rfl (by decide)) (said.append ending)

/-- The reader of a table body takes a comment into the fragment in progress at any depth, and
nothing in the comment ends the fragment. -/
theorem passed (comment : LeadingComment) (depth : Int) : TableBody.Passed depth comment.text :=
  fun position current rest _ => (comment.steps rest).fragmentsFrom position depth (some current)

/-- The reader of a table body is in plain SQL again behind a comment. -/
theorem placeAfter_text (comment : LeadingComment) :
    TableBody.placeAfter .plain comment.text = .plain := by
  have behind := (comment.steps []).placeAfter TableBody.opened_plain
  rwa [List.append_nil] at behind

/-! ### Backticks in comments -/

theorem closing_ne_nil (comment : LeadingComment) : comment.closing ≠ [] := by
  cases comment <;> exact List.cons_ne_nil _ _

theorem not_mem_closing (comment : LeadingComment) : '\x60' ∉ comment.closing := by
  cases comment <;> simp [closing]

/-- The marks of a comment hold no backtick. -/
theorem not_mem_text (comment : LeadingComment) (absent : '\x60' ∉ comment.content) :
    '\x60' ∉ comment.text := by
  have opening : '\x60' ∉ comment.opening := by
    cases comment <;> simp [LeadingComment.opening]
  rw [text, List.mem_append, List.mem_append, not_or, not_or]
  exact ⟨opening, absent, comment.not_mem_closing⟩

/-- A head starts at the last backtick of a comment, in front of a fragment whose column has a name
of characters that a data type may have. The backtick that opens the name closes the one that begins
in the comment. -/
theorem exists_starts (comment : LeadingComment) (offset : Int) (fragment : Text) (column : Column)
    (parsed : Column.parse? offset fragment = some column)
    (stands : column.StandsBehind offset fragment [])
    (plain : ∀ character ∈ column.name, character ∉ [',', '\'', '"', '(', ')'])
    (member : '\x60' ∈ comment.content) :
    ∃ position < comment.text.length, Head.Starts ((comment.text ++ fragment).drop position) := by
  obtain ⟨head, found, named, standsToo⟩ :=
    Column.standsBehind_of_parse? offset fragment column parsed
  obtain ⟨parts, spelled, _, _⟩ := Head.fits_of_find? fragment head found
  obtain ⟨_, follows⟩ := Head.reads_of_find? fragment head found
  rw [standsToo.unique stands, List.nil_append] at parts
  rw [named] at plain
  have inName : ∀ character ∈ head.name ++ ['\x60'],
      Head.endsType character = false ∧ character ≠ '(' := by
    intro character inside
    rcases List.mem_append.mp inside with inDoubled | isBacktick
    · rw [← spelled] at inDoubled
      have allowed := plain character (Text.mem_of_mem_double '\x60' character _ inDoubled)
      simp only [List.mem_cons, List.not_mem_nil, or_false, not_or] at allowed
      simp [Head.endsType, allowed]
    · rw [List.mem_singleton.mp isBacktick]
      decide
  have goesOn : Head.GoesOn (head.name ++ ['\x60'] ++
      (head.dataType ++ head.opening ++ head.rest)) :=
    ((Head.goesOn_iff _).mpr (follows ▸ rfl)).append _ inName
  -- The last backtick of the comment is the first one of what it says backwards.
  obtain ⟨last, lead, reversed, absent⟩ :=
    List.eq_append_cons_of_mem (List.mem_reverse.mpr member)
  have said : comment.content = lead.reverse ++ '\x60' :: last.reverse := by
    rw [← List.reverse_reverse comment.content, reversed, List.reverse_append, List.reverse_cons,
      List.append_assoc, List.singleton_append]
  have nameAbsent : '\x60' ∉ last.reverse ++ comment.closing := fun inside =>
    (List.mem_append.mp inside).elim (fun inLast => absent (List.mem_reverse.mp inLast))
      comment.not_mem_closing
  have equal : comment.text ++ fragment = (comment.opening ++ lead.reverse) ++
      '\x60' :: ((last.reverse ++ comment.closing) ++ '\x60' :: (head.name ++ ['\x60'] ++
        (head.dataType ++ head.opening ++ head.rest))) := by
    rw [text, said, parts]
    simp only [List.append_assoc, List.cons_append, List.nil_append]
  refine ⟨(comment.opening ++ lead.reverse).length, ?_, last.reverse ++ comment.closing, _, ?_,
    ?_, goesOn⟩
  · rw [text, said]
    simp only [List.length_append, List.length_cons]
    omega
  · rw [equal, List.drop_left, Text.double_of_not_mem '\x60' _ nameAbsent]
  · exact List.append_ne_nil_of_right_ne_nil _ comment.closing_ne_nil

/-- In front of any column, a comment is inert exactly if no head starts in it; the reader of a table
body passes over it in any case, into the fragment of the column. A comment without a backtick is
inert. In front of a fragment that starts with its column, and whose name has no comma, quote or
parenthesis, no other one is. -/
theorem inert_iff (comment : LeadingComment) (offset : Int) (fragment : Text) (column : Column)
    (parsed : Column.parse? offset fragment = some column) :
    TableBody.placeAfter .plain comment.text = .plain ∧
      (∀ depth, TableBody.Passed depth comment.text) ∧
      (comment.Inert offset fragment ↔ ∀ position < comment.text.length,
        ¬ Head.Starts ((comment.text ++ fragment).drop position)) ∧
      ('\x60' ∉ comment.content → comment.Inert offset fragment) ∧
      (column.StandsBehind offset fragment [] →
        (∀ character ∈ column.name, character ∉ [',', '\'', '"', '(', ')']) →
        comment.Inert offset fragment → '\x60' ∉ comment.content) := by
  have exactly := Column.parse?_append_iff offset comment.text fragment column parsed
  refine ⟨comment.placeAfter_text, comment.passed, exactly, fun absent => ?_,
    fun stands plain inert member => ?_⟩
  · exact exactly.mpr (Head.not_starts_of_not_mem _ fragment (comment.not_mem_text absent))
  · obtain ⟨position, within, starts⟩ :=
      comment.exists_starts offset fragment column parsed stands plain member
    exact exactly.mp inert position within starts

/-- A comment with an apostrophe and a parenthesis that are not closed. -/
def openQuoteComment : LeadingComment :=
  block "it's (new" fun inside => absurd (inside.subset List.mem_cons_self) (by simp)

/-- A comment with a name in backticks. -/
def formerNameComment : LeadingComment :=
  block "was `x`" fun inside => absurd (inside.subset List.mem_cons_self) (by simp)

/-- An apostrophe and a parenthesis in a comment make no difference. -/
theorem inert_iff_apostrophe :
    ∃ column, Column.parse? 7 "`a` int AS (1)" = some column ∧
      openQuoteComment.Inert 7 "`a` int AS (1)" := by
  have isRead : (Column.parse? 7 "`a` int AS (1)").isSome = true := by decide +kernel
  obtain ⟨column, parsed⟩ := Option.isSome_iff_exists.mp isRead
  obtain ⟨_, _, _, inert, _⟩ := inert_iff openQuoteComment 7 _ column parsed
  exact ⟨column, parsed, inert (by simp [openQuoteComment, content])⟩

/-- A name in a comment is read as the name of the column behind it. -/
theorem not_inert_formerName :
    ∃ column other, Column.parse? 0 "`a` int AS (1)" = some column ∧
      Column.parse? 0 (formerNameComment.text ++ "`a` int AS (1)") = some other ∧
      column.name = "a".toList ∧ other.name = "x".toList := by
  have alone : (Column.parse? 0 "`a` int AS (1)").map Column.name = some "a".toList := by
    decide +kernel
  have behind : (Column.parse? 0 (formerNameComment.text ++ "`a` int AS (1)")).map Column.name =
      some "x".toList := by
    decide +kernel
  obtain ⟨column, parsed, name⟩ := Option.map_eq_some_iff.mp alone
  obtain ⟨other, parsedToo, nameToo⟩ := Option.map_eq_some_iff.mp behind
  exact ⟨column, other, parsed, parsedToo, name, nameToo⟩

end LeadingComment

end DumpRestore
