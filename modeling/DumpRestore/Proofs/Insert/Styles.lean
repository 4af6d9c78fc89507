/-
This file says what is read of a column list in which some names stand in backticks and others do
not. A list without any backtick is read as it is. In any other list, names are told apart only
where a backtick, a comma and a backtick follow one another, so a column is read as it is listed
exactly where it and its neighbours are all quoted; every other stretch is taken for one name that
holds a comma. The backtick is the character 0x60.
-/

import DumpRestore.Proofs.Insert
import DumpRestore.Proofs.Text.Blanks

namespace DumpRestore

namespace Text

/-- A space in front of the first piece is trimmed away. -/
theorem map_trim_splitOn_space (separator : Char) (text : Text) (other : ' ' ≠ separator) :
    (splitOn separator (' ' :: text)).map trim = (splitOn separator text).map trim := by
  rw [splitOn, splitWhere, decide_eq_false other, if_neg Bool.false_ne_true, splitOn]
  split
  · rename_i none_
    exact absurd none_ (splitOn_ne_nil separator text)
  · rename_i piece pieces some_
    rw [some_]
    rfl

end Text

namespace Insert

/-! ### Lists of columns -/

/-- A column of a list, in backticks or without them. -/
structure ListedColumn where
  name : Text.Word
  quoted : Bool

namespace ListedColumn

/-- A backtick, where there is to be one. -/
def mark (present : Bool) : Text :=
  if present then ['\x60'] else []

/-- The column as it is listed. -/
def text (column : ListedColumn) : Text :=
  mark column.quoted ++ column.name.text ++ mark column.quoted

/-- Whether any column is quoted. -/
def anyQuoted (columns : List ListedColumn) : Bool :=
  columns.any ListedColumn.quoted

/-- The columns as they are listed, with a comma and a space between neighbours. -/
def listText (columns : List ListedColumn) : Text :=
  Text.join ", " (columns.map text)

/-- The columns that stand alone between the places where a list with backticks is cut, which lie
between two quoted neighbours; `cut` says that the list is cut in front of the first column. -/
def alone : (cut : Bool) → List ListedColumn → List ListedColumn
  | _, [] => []
  | cut, [column] => if cut then [column] else []
  | cut, column :: next :: rest =>
    if column.quoted && next.quoted then
      if cut then column :: alone true (next :: rest) else alone true (next :: rest)
    else alone false (next :: rest)

/-- The columns that are read as they are listed. -/
def readAsListed (columns : List ListedColumn) : List ListedColumn :=
  if anyQuoted columns then alone true columns else columns

theorem alone_of_quoted (columns : List ListedColumn)
    (quoted : ∀ column ∈ columns, column.quoted = true) : alone true columns = columns := by
  induction columns with
  | nil => rfl
  | cons column columns inductionHypothesis =>
    cases columns with
    | nil => rfl
    | cons next rest =>
      have first := quoted column List.mem_cons_self
      have second := quoted next (List.mem_cons_of_mem column List.mem_cons_self)
      rw [alone, first, second, Bool.and_self, if_pos rfl, if_pos rfl,
        inductionHypothesis fun other member => quoted other (List.mem_cons_of_mem column member)]

/-- A list in one style is read as it is. -/
theorem readAsListed_of_uniform (columns : List ListedColumn)
    (uniform : ∀ first ∈ columns, ∀ second ∈ columns, first.quoted = second.quoted) :
    readAsListed columns = columns := by
  unfold readAsListed
  split
  · rename_i some_
    obtain ⟨column, member, quoted⟩ := List.any_eq_true.mp some_
    refine alone_of_quoted columns fun other otherMember => ?_
    rw [uniform other otherMember column member, quoted]
  · rfl

/-! ### Text of a list -/

theorem text_of_bare (column : ListedColumn) (bare : column.quoted = false) :
    column.text = column.name.text := by
  rw [text, bare]
  exact List.append_nil _

theorem text_of_quoted (column : ListedColumn) (quoted : column.quoted = true) :
    column.text = '\x60' :: (column.name.text ++ ['\x60']) := by
  rw [text, quoted]
  rfl

theorem text_ne_nil (column : ListedColumn) : column.text ≠ [] :=
  List.append_ne_nil_of_left_ne_nil (List.append_ne_nil_of_right_ne_nil _ column.name.nonempty) _

/-- A mark that is neither a backtick nor part of words stands in no listed column. -/
theorem not_mem_text (column : ListedColumn) (character : Char)
    (gap : Text.isWordChar character = false) (other : character ≠ '\x60') :
    character ∉ column.text := by
  have inMark (present : Bool) : character ∉ mark present := by
    cases present with
    | false => exact List.not_mem_nil
    | true => exact fun member => other (List.mem_singleton.mp member)
  intro member
  rcases List.mem_append.mp member with inFront | behind
  · rcases List.mem_append.mp inFront with before | inName
    · exact inMark _ before
    · exact Text.not_mem_of_isWordChar character _ gap column.name.inWord inName
  · exact inMark _ behind

theorem listText_cons_cons (column next : ListedColumn) (rest : List ListedColumn) :
    listText (column :: next :: rest) = column.text ++ ", " ++ listText (next :: rest) := rfl

theorem not_mem_listText (columns : List ListedColumn) (character : Char)
    (gap : Text.isWordChar character = false) (other : character ≠ '\x60')
    (outside : character ∉ (", " : Text)) : character ∉ listText columns := by
  intro member
  rcases Text.mem_join _ _ _ member with ⟨listed, listedMember, inListed⟩ | inSeparator
  · obtain ⟨column, _, rfl⟩ := List.mem_map.mp listedMember
    exact column.not_mem_text character gap other inListed
  · exact outside inSeparator

theorem listText_ne_nil (columns : List ListedColumn) (named : columns ≠ []) :
    listText columns ≠ [] := by
  cases columns with
  | nil => exact absurd rfl named
  | cons column columns => exact Text.join_ne_nil _ _ _ column.text_ne_nil

/-- Without quoted columns no backtick stands in a list. -/
theorem not_mem_listText_of_bare (columns : List ListedColumn) (bare : anyQuoted columns = false) :
    '\x60' ∉ listText columns := by
  intro member
  rcases Text.mem_join _ _ _ member with ⟨listed, listedMember, inListed⟩ | inSeparator
  · obtain ⟨column, columnMember, rfl⟩ := List.mem_map.mp listedMember
    rw [column.text_of_bare (Bool.eq_false_iff.mpr (List.any_eq_false.mp bare column columnMember))]
      at inListed
    exact Text.not_mem_of_isWordChar '\x60' _ rfl column.name.inWord inListed
  · revert inSeparator
    decide

theorem not_mem_separator_listText (columns : List ListedColumn)
    (bare : anyQuoted columns = false) : '\x60' ∉ ", " ++ listText columns := by
  intro member
  rcases List.mem_append.mp member with inSeparator | inList
  · revert inSeparator
    decide
  · exact not_mem_listText_of_bare columns bare inList

/-! ### The list without its outer backticks -/

/-- What stands between the backticks of a column and the end of a list without its last backtick:
`begun` says that the first backtick of the list stands further in front. -/
def coreText : (begun : Bool) → List ListedColumn → Text
  | _, [] => []
  | begun, [column] => mark (begun && column.quoted) ++ column.name.text
  | begun, column :: next :: rest =>
    mark (begun && column.quoted) ++ column.name.text ++
      mark (column.quoted && anyQuoted (next :: rest)) ++ ", " ++
      coreText (begun || column.quoted) (next :: rest)

theorem coreText_of_bare (begun : Bool) (columns : List ListedColumn)
    (bare : anyQuoted columns = false) : coreText begun columns = listText columns := by
  induction columns generalizing begun with
  | nil => rfl
  | cons column columns inductionHypothesis =>
    rw [anyQuoted, List.any_cons, Bool.or_eq_false_iff] at bare
    have further (begun : Bool) := inductionHypothesis begun bare.2
    cases columns with
    | nil =>
      rw [coreText, bare.1, Bool.and_false]
      exact (column.text_of_bare bare.1).symm
    | cons next rest =>
      rw [coreText, bare.1, Bool.and_false, Bool.false_and, further, listText_cons_cons,
        column.text_of_bare bare.1]
      simp only [mark, Bool.false_eq_true, if_false, List.nil_append, List.append_nil]

/-- Behind the first backtick of a list, only the last one is left out. -/
theorem listText_of_begun (columns : List ListedColumn) (quoted : anyQuoted columns = true) :
    ∃ middle after, listText columns = middle ++ '\x60' :: after ∧ '\x60' ∉ after ∧
      coreText true columns = middle ++ after := by
  induction columns with
  | nil => cases quoted
  | cons column columns inductionHypothesis =>
    cases columns with
    | nil =>
      have isQuoted : column.quoted = true := by
        rwa [anyQuoted, List.any_cons, List.any_nil, Bool.or_false] at quoted
      refine ⟨'\x60' :: column.name.text, [], ?_, List.not_mem_nil, ?_⟩
      · exact column.text_of_quoted isQuoted
      · rw [coreText, isQuoted, List.append_nil]
        rfl
    | cons next rest =>
      rw [listText_cons_cons, coreText]
      cases later : anyQuoted (next :: rest) with
      | true =>
        obtain ⟨middle, after, equal, plain, core⟩ := inductionHypothesis later
        refine ⟨column.text ++ ", " ++ middle, after, ?_, plain, ?_⟩
        · rw [equal, List.append_assoc _ middle]
        · rw [Bool.true_or, core, Bool.true_and, Bool.and_true]
          simp only [text, List.append_assoc]
      | false =>
        have isQuoted : column.quoted = true := by
          rw [anyQuoted, List.any_cons, Bool.or_eq_true] at quoted
          exact quoted.resolve_right (Bool.eq_false_iff.mp later)
        refine ⟨'\x60' :: column.name.text, ", " ++ listText (next :: rest), ?_,
          not_mem_separator_listText (next :: rest) later, ?_⟩
        · rw [column.text_of_quoted isQuoted]
          simp only [List.append_assoc, List.cons_append, List.nil_append]
        · rw [coreText_of_bare _ _ later, isQuoted]
          simp only [mark, Bool.and_self, Bool.true_and, Bool.false_eq_true, if_false, if_true,
            List.append_assoc, List.cons_append, List.nil_append]

/-- A list with backticks has a first and a last one, and something stands between them. -/
theorem listText_of_quoted (columns : List ListedColumn) (quoted : anyQuoted columns = true) :
    ∃ before middle after, listText columns = before ++ '\x60' :: middle ++ '\x60' :: after ∧
      '\x60' ∉ before ∧ '\x60' ∉ after ∧ middle ≠ [] ∧
      coreText false columns = before ++ middle ++ after := by
  induction columns with
  | nil => cases quoted
  | cons column columns inductionHypothesis =>
    cases columns with
    | nil =>
      have isQuoted : column.quoted = true := by
        rwa [anyQuoted, List.any_cons, List.any_nil, Bool.or_false] at quoted
      refine ⟨[], column.name.text, [], ?_, List.not_mem_nil, List.not_mem_nil,
        column.name.nonempty, ?_⟩
      · exact column.text_of_quoted isQuoted
      · rw [coreText, Bool.false_and, List.append_nil]
        rfl
    | cons next rest =>
      rw [listText_cons_cons, coreText]
      cases isQuoted : column.quoted with
      | false =>
        have later : anyQuoted (next :: rest) = true := by
          rwa [anyQuoted, List.any_cons, isQuoted, Bool.false_or] at quoted
        obtain ⟨before, middle, after, equal, plainBefore, plainAfter, nonempty, core⟩ :=
          inductionHypothesis later
        refine ⟨column.name.text ++ ", " ++ before, middle, after, ?_, ?_, plainAfter, nonempty, ?_⟩
        · rw [equal, column.text_of_bare isQuoted]
          simp only [List.append_assoc]
        · intro member
          rcases List.mem_append.mp member with inFront | inBefore
          · rcases List.mem_append.mp inFront with inName | inSeparator
            · exact Text.not_mem_of_isWordChar '\x60' _ rfl column.name.inWord inName
            · revert inSeparator
              decide
          · exact plainBefore inBefore
        · rw [Bool.false_or, core, Bool.false_and, Bool.false_and]
          simp only [mark, Bool.false_eq_true, if_false, List.append_assoc, List.nil_append]
      | true =>
        rw [column.text_of_quoted isQuoted, Bool.false_and, Bool.true_and, Bool.false_or]
        cases later : anyQuoted (next :: rest) with
        | true =>
          obtain ⟨middle, after, equal, plain, core⟩ := listText_of_begun (next :: rest) later
          refine ⟨[], column.name.text ++ ['\x60'] ++ ", " ++ middle, after, ?_, List.not_mem_nil,
            plain, ?_, ?_⟩
          · rw [equal]
            simp only [List.append_assoc, List.cons_append, List.nil_append]
          · simp only [List.append_assoc]
            exact List.append_ne_nil_of_left_ne_nil column.name.nonempty _
          · rw [core]
            simp only [mark, Bool.false_eq_true, if_false, if_true, List.append_assoc,
              List.nil_append]
        | false =>
          refine ⟨[], column.name.text, ", " ++ listText (next :: rest), ?_, List.not_mem_nil,
            not_mem_separator_listText (next :: rest) later, column.name.nonempty, ?_⟩
          · simp only [List.append_assoc, List.cons_append, List.nil_append]
          · rw [coreText_of_bare _ _ later]
            simp only [mark, Bool.false_eq_true, if_false, List.append_assoc, List.nil_append,
              List.append_nil]

end ListedColumn

/-- The text before a mark that does not stand in it. -/
theorem takeWhile_append_cons (mark : Char) (text rest : Text) (absent : mark ∉ text) :
    (text ++ mark :: rest).takeWhile (· != mark) = text := by
  have before : ∀ character ∈ text, (character != mark) = true := by
    intro character member
    exact bne_iff_ne.mpr fun same => absent (same ▸ member)
  rw [List.takeWhile_append_of_pos before, List.takeWhile_cons, bne_self_eq_false,
    if_neg Bool.false_ne_true, List.append_nil]

/-- The outer backticks are the first and the last one. -/
theorem dropOuterBackticks_append (before middle after : Text) (plainBefore : '\x60' ∉ before)
    (plainAfter : '\x60' ∉ after) (nonempty : middle ≠ []) :
    dropOuterBackticks (before ++ '\x60' :: middle ++ '\x60' :: after) =
      before ++ middle ++ after := by
  have leading : (before ++ '\x60' :: middle ++ '\x60' :: after).takeWhile (· != '\x60') =
      before := by
    rw [List.append_assoc]
    exact takeWhile_append_cons '\x60' before _ plainBefore
  have fromFirst : (before ++ '\x60' :: middle ++ '\x60' :: after).drop before.length =
      ('\x60' :: middle ++ ['\x60']) ++ after := by
    rw [List.append_assoc, List.drop_left, List.append_assoc, List.singleton_append]
  have trailing : (('\x60' :: middle ++ ['\x60'] ++ after).reverse.takeWhile
      (· != '\x60')).reverse = after := by
    rw [List.reverse_append, List.reverse_append, List.reverse_singleton, List.singleton_append,
      takeWhile_append_cons '\x60' _ _ fun member => plainAfter (List.mem_reverse.mp member),
      List.reverse_reverse]
  have cut : ('\x60' :: middle ++ ['\x60'] ++ after).length - after.length =
      ('\x60' :: middle ++ ['\x60']).length := by
    rw [List.length_append, Nat.add_sub_cancel]
  have long : 3 ≤ ('\x60' :: middle ++ ['\x60']).length := by
    have positive := List.length_pos_iff.mpr nonempty
    rw [List.length_append, List.length_cons, List.length_singleton]
    omega
  unfold dropOuterBackticks
  simp only [leading, fromFirst, trailing, cut, List.take_left]
  rw [if_pos long, List.cons_append, List.drop_one, List.tail_cons, List.dropLast_concat]

/-! ### Cutting the list -/

/-- Every character of a word is passed over when blanks and separators are looked for. -/
theorem exists_cons_word (word : Text.Word) (rest : Text) :
    ∃ character others, word.text ++ rest = character :: others ∧ character ≠ ',' ∧
      character ≠ '\x60' ∧ Text.isBlank character = false := by
  cases equal : word.text with
  | nil => exact absurd equal word.nonempty
  | cons character others =>
    have inWord := word.inWord character (equal ▸ List.mem_cons_self)
    exact ⟨character, others ++ rest, rfl, Text.ne_of_isWordChar ',' character rfl inWord,
      Text.ne_of_isWordChar '\x60' character rfl inWord, Text.isBlank_of_isWordChar character inWord⟩

theorem afterSeparator?_word (word : Text.Word) (rest : Text) :
    afterSeparator? ('\x60' :: (word.text ++ rest)) = none := by
  obtain ⟨character, others, equal, notComma, _, visible⟩ := exists_cons_word word rest
  have skipped : Text.skipBlanks (word.text ++ rest) = character :: others := by
    rw [equal, Text.skipBlanks_cons_visible character others visible]
  unfold afterSeparator?
  simp only [skipped]
  split
  · rename_i same
    injection same with first _
    exact absurd first notComma
  · rfl

theorem afterSeparator?_comma_word (word : Text.Word) (rest : Text) :
    afterSeparator? ('\x60' :: ',' :: ' ' :: (word.text ++ rest)) = none := by
  obtain ⟨character, others, equal, _, notMark, visible⟩ := exists_cons_word word rest
  have comma : Text.skipBlanks (',' :: ' ' :: (word.text ++ rest)) =
      ',' :: ' ' :: (word.text ++ rest) :=
    Text.skipBlanks_cons_visible ',' _ rfl
  have skipped : Text.skipBlanks (' ' :: (word.text ++ rest)) = character :: others := by
    rw [Text.skipBlanks_cons_blank ' ' _ rfl, equal,
      Text.skipBlanks_cons_visible character others visible]
  unfold afterSeparator?
  simp only [comma, skipped]
  split
  · rename_i same
    injection same with first _
    exact absurd first notMark
  · rfl

theorem splitQuoted_cons (character : Char) (rest name : Text) (names : List Text)
    (noSeparator : afterSeparator? (character :: rest) = none)
    (further : splitQuoted 0 rest = name :: names) :
    splitQuoted 0 (character :: rest) = (character :: name) :: names := by
  rw [splitQuoted, noSeparator, further]

theorem splitQuoted_plain (text rest name : Text) (names : List Text) (plain : '\x60' ∉ text)
    (further : splitQuoted 0 rest = name :: names) :
    splitQuoted 0 (text ++ rest) = (text ++ name) :: names := by
  induction text with
  | nil => exact further
  | cons character text inductionHypothesis =>
    exact splitQuoted_cons_of_ne character _ _ _ (fun same => plain (same ▸ List.mem_cons_self))
      (inductionHypothesis fun member => plain (List.mem_cons_of_mem character member))

/-- A backtick in front of a word is no separator. -/
theorem splitQuoted_mark (present : Bool) (word : Text.Word) (rest name : Text) (names : List Text)
    (further : splitQuoted 0 (word.text ++ rest) = name :: names) :
    splitQuoted 0 (ListedColumn.mark present ++ (word.text ++ rest)) =
      (ListedColumn.mark present ++ name) :: names := by
  cases present with
  | false => exact further
  | true => exact splitQuoted_cons '\x60' _ _ _ (afterSeparator?_word word rest) further

namespace ListedColumn

theorem not_mem_name (column : ListedColumn) : '\x60' ∉ column.name.text :=
  Text.not_mem_of_isWordChar '\x60' _ rfl column.name.inWord

/-- A column that is quoted opens with a backtick, unless the first one of the list is its own. -/
theorem coreText_true (column : ListedColumn) (rest : List ListedColumn)
    (quoted : column.quoted = true) :
    coreText true (column :: rest) = '\x60' :: coreText false (column :: rest) := by
  cases rest with
  | nil => rw [coreText, coreText, quoted]; rfl
  | cons next rest => rw [coreText, coreText, quoted]; rfl

/-- A column that is not quoted opens with a word. -/
theorem coreText_of_bare_column (begun : Bool) (column : ListedColumn)
    (rest : List ListedColumn) (bare : column.quoted = false) :
    ∃ after, coreText begun (column :: rest) = column.name.text ++ after := by
  cases rest with
  | nil =>
    refine ⟨[], ?_⟩
    rw [coreText, bare, Bool.and_false, List.append_nil]
    rfl
  | cons next rest =>
    refine ⟨", " ++ coreText begun (next :: rest), ?_⟩
    rw [coreText, bare, Bool.and_false, Bool.false_and, Bool.or_false]
    simp only [mark, Bool.false_eq_true, if_false, List.nil_append, List.append_nil,
      List.append_assoc]

/-- What a list without its outer backticks is cut into: the columns that stand alone, and pieces
that hold a comma. The first piece belongs to the first column. -/
structure CutInto (begun : Bool) (column : ListedColumn) (rest : List ListedColumn)
    (first : Text) (others : List Text) : Prop where
  front : (first = mark (begun && column.quoted) ++ column.name.text ∧
      alone true (column :: rest) = column :: alone false (column :: rest)) ∨
    (',' ∈ first ∧ alone true (column :: rest) = alone false (column :: rest))
  behind : ∀ piece ∈ others,
    (∃ other ∈ alone false (column :: rest), piece = other.name.text) ∨ ',' ∈ piece
  found : ∀ other ∈ alone false (column :: rest), other.name.text ∈ others

section Pieces

variable {column : ListedColumn} {rest : List ListedColumn} {first : Text} {others : List Text}

/-- Where no backtick is left in front of the first column, its piece is one like the others. -/
theorem CutInto.pieces (cut : CutInto false column rest first others) :
    (∀ piece ∈ first :: others,
      (∃ other ∈ alone true (column :: rest), piece = other.name.text) ∨ ',' ∈ piece) ∧
    ∀ other ∈ alone true (column :: rest), other.name.text ∈ first :: others := by
  rcases cut.front with ⟨single, standing⟩ | ⟨comma, standing⟩
  · rw [standing]
    constructor
    · intro piece member
      rcases List.mem_cons.mp member with rfl | inOthers
      · exact Or.inl ⟨column, List.mem_cons_self, single⟩
      · refine (cut.behind piece inOthers).imp_left ?_
        rintro ⟨other, otherMember, otherEqual⟩
        exact ⟨other, List.mem_cons_of_mem column otherMember, otherEqual⟩
    · intro other member
      rcases List.mem_cons.mp member with rfl | inRest
      · rw [single]
        exact List.mem_cons_self
      · exact List.mem_cons_of_mem first (cut.found other inRest)
  · rw [standing]
    constructor
    · intro piece member
      rcases List.mem_cons.mp member with rfl | inOthers
      · exact Or.inr comma
      · exact cut.behind piece inOthers
    · exact fun other member => List.mem_cons_of_mem first (cut.found other member)

/-- The list is cut between two quoted columns. -/
theorem CutInto.cut {next : ListedColumn} (further : CutInto false next rest first others)
    (begun : Bool) (quoted : column.quoted = true) (nextQuoted : next.quoted = true) :
    CutInto begun column (next :: rest) (mark (begun && column.quoted) ++ column.name.text)
      (first :: others) := by
  have same (cut : Bool) : alone cut (column :: next :: rest) =
      if cut then column :: alone true (next :: rest) else alone true (next :: rest) := by
    rw [alone, quoted, nextQuoted]
    rfl
  obtain ⟨pieces, found⟩ := further.pieces
  constructor
  · exact Or.inl ⟨rfl, by rw [same, same]; rfl⟩
  · rw [same]
    exact pieces
  · rw [same]
    exact found

/-- The list is not cut between two columns of which one is bare. -/
theorem CutInto.append {begun nextBegun : Bool} {next : ListedColumn}
    (further : CutInto nextBegun next rest first others) (lead : Text)
    (bare : (column.quoted && next.quoted) = false) :
    CutInto begun column (next :: rest) (lead ++ ", " ++ first) others := by
  have same (cut : Bool) : alone cut (column :: next :: rest) = alone false (next :: rest) := by
    rw [alone, bare]
    rfl
  constructor
  · refine Or.inr ⟨?_, by rw [same, same]⟩
    exact List.mem_append_left _ (List.mem_append_right lead List.mem_cons_self)
  · rw [same]
    exact further.behind
  · rw [same]
    exact further.found

end Pieces

/-- The list without its outer backticks is cut between quoted neighbours and nowhere else. -/
theorem cutInto_splitQuoted (begun : Bool) (column : ListedColumn) (rest : List ListedColumn) :
    ∃ first others, splitQuoted 0 (coreText begun (column :: rest)) = first :: others ∧
      CutInto begun column rest first others := by
  induction rest generalizing begun column with
  | nil =>
    refine ⟨mark (begun && column.quoted) ++ column.name.text, [], ?_, Or.inl ⟨rfl, rfl⟩,
      fun _ member => ?_, fun _ member => ?_⟩
    · have single := splitQuoted_of_not_mem column.name.text column.not_mem_name
      rw [← List.append_nil column.name.text] at single
      rw [coreText, ← List.append_nil column.name.text]
      exact splitQuoted_mark _ column.name [] _ [] single
    · cases member
    · cases member
  | cons next rest inductionHypothesis =>
    cases both : column.quoted && next.quoted with
    | true =>
      obtain ⟨quoted, nextQuoted⟩ := Bool.and_eq_true_iff.mp both
      obtain ⟨first, others, split, further⟩ := inductionHypothesis false next
      refine ⟨_, first :: others, ?_, further.cut begun quoted nextQuoted⟩
      have later : anyQuoted (next :: rest) = true := by
        rw [anyQuoted, List.any_cons, nextQuoted, Bool.true_or]
      have name := splitQuoted_append column.name.text (coreText false (next :: rest))
        column.not_mem_name
      rw [split] at name
      have marked := splitQuoted_mark (begun && column.quoted) column.name _ _ _ name
      refine Eq.trans (congrArg (splitQuoted 0) ?_) marked
      rw [coreText, later, quoted, Bool.or_true, coreText_true next rest nextQuoted]
      simp only [mark, Bool.and_true, if_true, List.append_assoc, List.cons_append,
        List.nil_append]
      rfl
    | false =>
      obtain ⟨first, others, split, further⟩ := inductionHypothesis (begun || column.quoted) next
      refine ⟨_, others, ?_, further.append (mark (begun && column.quoted) ++ column.name.text ++
        mark (column.quoted && anyQuoted (next :: rest))) both⟩
      have comma := splitQuoted_plain ", " _ _ _ (by decide) split
      have closed : splitQuoted 0 (mark (column.quoted && anyQuoted (next :: rest)) ++
            (", " ++ coreText (begun || column.quoted) (next :: rest))) =
          (mark (column.quoted && anyQuoted (next :: rest)) ++ (", " ++ first)) :: others := by
        cases present : column.quoted && anyQuoted (next :: rest) with
        | false => exact comma
        | true =>
          rw [(Bool.and_eq_true_iff.mp present).1, Bool.true_and] at both
          obtain ⟨after, opens⟩ := coreText_of_bare_column (begun || column.quoted) next rest both
          rw [opens] at comma ⊢
          exact splitQuoted_cons '\x60' _ _ _ (afterSeparator?_comma_word next.name after) comma
      have name := splitQuoted_plain column.name.text _ _ _ column.not_mem_name closed
      have marked := splitQuoted_mark (begun && column.quoted) column.name _ _ _ name
      rw [coreText]
      simpa only [List.append_assoc] using marked

/-! ### Names that are read -/

theorem trimmed_text (column : ListedColumn) : Text.Trimmed column.text := by
  have visible : ∀ character ∈ column.text, Text.isBlank character = false := by
    intro character member
    cases blank : Text.isBlank character with
    | false => rfl
    | true =>
      have gap := Text.isWordChar_of_isBlank character blank
      have other : character ≠ '\x60' := by
        rintro rfl
        cases blank
      exact absurd member (column.not_mem_text character gap other)
  exact ⟨fun character member => visible character (List.mem_of_head? member),
    fun character member => visible character (List.mem_of_getLast? member)⟩

theorem trimmed_listText (columns : List ListedColumn) : Text.Trimmed (listText columns) := by
  induction columns with
  | nil => exact Text.trimmed_nil
  | cons column columns inductionHypothesis =>
    cases columns with
    | nil => exact column.trimmed_text
    | cons next rest =>
      rw [listText_cons_cons, List.append_assoc]
      exact column.trimmed_text.append inductionHypothesis column.text_ne_nil
        (listText_ne_nil (next :: rest) (List.cons_ne_nil next rest)) ", "

/-- A list without backticks is cut at its commas. -/
theorem map_trim_splitOn (columns : List ListedColumn) (named : columns ≠ [])
    (bare : anyQuoted columns = false) :
    (Text.splitOn ',' (listText columns)).map Text.trim =
      columns.map fun column => column.name.text := by
  induction columns with
  | nil => exact absurd rfl named
  | cons column columns inductionHypothesis =>
    rw [anyQuoted, List.any_cons, Bool.or_eq_false_iff] at bare
    have noComma := column.not_mem_text ',' rfl (by decide)
    have trimmed := Text.trim_of_trimmed _ column.trimmed_text
    rw [column.text_of_bare bare.1] at noComma trimmed
    cases columns with
    | nil =>
      show (Text.splitOn ',' column.text).map Text.trim = [column.name.text]
      rw [column.text_of_bare bare.1, Text.splitOn_of_not_mem ',' _ noComma, List.map_singleton,
        trimmed]
    | cons next rest =>
      have further := inductionHypothesis (List.cons_ne_nil next rest) bare.2
      have spaced : listText (column :: next :: rest) =
          column.name.text ++ ',' :: ' ' :: listText (next :: rest) := by
        rw [listText_cons_cons, column.text_of_bare bare.1, List.append_assoc]
        rfl
      rw [spaced, Text.splitOn_append ',' _ _ noComma, List.map_cons, List.map_cons, trimmed,
        ← further, Text.map_trim_splitOn_space ',' _ (by decide)]

/-- Names that are read from a list with backticks: those of the columns that stand alone, and texts
that hold a comma. -/
theorem exists_columnNames?_of_quoted (columns : List ListedColumn)
    (quoted : anyQuoted columns = true) :
    ∃ names, columnNames? (listText columns) = some names ∧
      (∀ name ∈ names,
        (∃ column ∈ alone true columns, name = column.name.text) ∨ ',' ∈ name) ∧
      ∀ column ∈ alone true columns, column.name.text ∈ names := by
  obtain ⟨before, middle, after, equal, plainBefore, plainAfter, nonempty, core⟩ :=
    listText_of_quoted columns quoted
  have isElem : (listText columns).elem '\x60' = true := by
    rw [List.elem_iff, equal, List.append_assoc]
    exact List.mem_append_right before List.mem_cons_self
  have read := columnNames?_of_elem _ (Text.trim_of_trimmed _ (trimmed_listText columns)) isElem
  rw [equal, dropOuterBackticks_append before middle after plainBefore plainAfter nonempty, ← core,
    ← equal] at read
  cases columns with
  | nil => cases quoted
  | cons column rest =>
    obtain ⟨first, others, split, cut⟩ := cutInto_splitQuoted false column rest
    rw [split] at read
    have unquoted (other : ListedColumn) : Identifier.unquote other.name.text = other.name.text :=
      Identifier.unquote_of_not_mem _ other.not_mem_name
    have comma (piece : Text) (member : ',' ∈ piece) : ',' ∈ Identifier.unquote piece :=
      Text.mem_undouble '\x60' ',' piece (by decide) member
    obtain ⟨pieces, found⟩ := cut.pieces
    refine ⟨_, read, ?_, ?_⟩
    · intro name member
      obtain ⟨piece, pieceMember, rfl⟩ := List.mem_map.mp member
      rcases pieces piece pieceMember with ⟨other, otherMember, rfl⟩ | inPiece
      · exact Or.inl ⟨other, otherMember, unquoted other⟩
      · exact Or.inr (comma piece inPiece)
    · intro other member
      exact List.mem_map.mpr ⟨_, found other member, unquoted other⟩

/-- Names that are read from a list: those of the columns that are read as they are listed, and
texts that hold a comma. -/
theorem exists_columnNames? (columns : List ListedColumn) (named : columns ≠ []) :
    ∃ names, columnNames? (listText columns) = some names ∧
      (∀ name ∈ names,
        (∃ column ∈ readAsListed columns, name = column.name.text) ∨ ',' ∈ name) ∧
      ∀ column ∈ readAsListed columns, column.name.text ∈ names := by
  unfold readAsListed
  cases quoted : anyQuoted columns with
  | true => exact exists_columnNames?_of_quoted columns quoted
  | false =>
    have plain := not_mem_listText_of_bare columns quoted
    have notElem : (listText columns).elem '\x60' = false :=
      Bool.eq_false_iff.mpr fun isElem => plain (List.elem_iff.mp isElem)
    have nonempty := List.isEmpty_eq_false_iff.mpr (listText_ne_nil columns named)
    refine ⟨columns.map fun column => column.name.text, ?_, ?_, ?_⟩
    · unfold columnNames?
      rw [Text.trim_of_trimmed _ (trimmed_listText columns)]
      simp only [nonempty, notElem, Bool.false_eq_true, if_false,
        map_trim_splitOn columns named quoted]
    · intro name member
      obtain ⟨column, columnMember, rfl⟩ := List.mem_map.mp member
      exact Or.inl ⟨column, columnMember, rfl⟩
    · exact fun column member => List.mem_map_of_mem member

end ListedColumn

/-! ### Statements with such a list -/

open ListedColumn

/-- A statement with a bare table and a list of columns, each quoted or not; the rows start behind
VALUES and a blank. -/
def styled (table : Text.Word) (columns : List ListedColumn) (rows : Text) : Text :=
  "INSERT INTO " ++ table.text ++ " (" ++ listText columns ++ ") VALUES " ++ rows

theorem columnList?_styled (table : Text.Word) (columns : List ListedColumn) (rows : Text)
    (named : columns ≠ []) :
    columnList? (styled table columns rows) = some (some (listText columns)) := by
  have closes := not_mem_listText columns ')' rfl (by decide) (by decide)
  have list := afterTable?_list (listText columns) rows (listText_ne_nil columns named) closes
  have bare : afterBareTable? (" (" ++ listText columns ++ ") VALUES " ++ rows) =
      some (some (listText columns)) := by
    show afterBareTable? (' ' :: '(' :: (listText columns ++ ") VALUES " ++ rows)) = _
    rw [afterBareTable?, if_neg (by decide), afterBareTable?, if_pos rfl]
    exact list
  have flat : '(' ∉ ' ' :: table.text := by
    intro member
    rcases List.mem_cons.mp member with same | inTable
    · cases same
    · exact Text.not_mem_of_isWordChar '(' table.text rfl table.inWord inTable
  have reads : afterInto? (' ' :: (table.text ++ (" (" ++ listText columns ++ ") VALUES " ++
      rows))) = some (some (listText columns)) := by
    rw [← List.cons_append, afterInto?_word table.text _ table.nonempty table.inWord]
    exact afterBareTable?_append (' ' :: table.text) _ _ flat bare
  unfold styled
  simp only [List.append_assoc] at reads ⊢
  exact columnList?_insert_into _ _ reads

/-- A statement with a list is taken to write to generated columns where a column that is read as it
is listed is generated; and only there, as long as no name of a generated column holds a comma. In
a list of one style every column is read as it is listed. -/
theorem writesTo?_styled (table : Text.Word) (columns : List ListedColumn) (rows : Text)
    (generated : List Text) (named : columns ≠ []) :
    (∃ answer, writesTo? generated (styled table columns rows) = some answer ∧
      ((∃ column ∈ readAsListed columns, column.name.text ∈ generated) → answer = true) ∧
      ((∀ name ∈ generated, ',' ∉ name) → answer = true →
        ∃ column ∈ readAsListed columns, column.name.text ∈ generated)) ∧
    ((∀ first ∈ columns, ∀ second ∈ columns, first.quoted = second.quoted) →
      readAsListed columns = columns) := by
  refine ⟨?_, readAsListed_of_uniform columns⟩
  obtain ⟨names, read, pieces, found⟩ := exists_columnNames? columns named
  unfold writesTo?
  rw [columnList?_styled table columns rows named]
  refine ⟨names.any generated.elem, ?_, ?_, ?_⟩
  · rw [Option.map_some, Option.bind_some, read]
  · rintro ⟨column, member, inGenerated⟩
    exact List.any_eq_true.mpr ⟨_, found column member, List.elem_iff.mpr inGenerated⟩
  · intro ordinary answer
    obtain ⟨name, member, isGenerated⟩ := List.any_eq_true.mp answer
    have inGenerated := List.elem_iff.mp isGenerated
    rcases pieces name member with ⟨column, columnMember, rfl⟩ | comma
    · exact ⟨column, columnMember, inGenerated⟩
    · exact absurd comma (ordinary name inGenerated)

/-- Three columns of which the last two are quoted, and the same columns all quoted: the last one is
read as it is listed. -/
theorem writesTo?_styled_orders :
    let id : Text.Word := .ofText "id" rfl
    let net : Text.Word := .ofText "net" rfl
    let total : Text.Word := .ofText "total" rfl
    let mixed : List ListedColumn := [⟨id, false⟩, ⟨net, true⟩, ⟨total, true⟩]
    let uniform : List ListedColumn := [⟨id, true⟩, ⟨net, true⟩, ⟨total, true⟩]
    mixed ≠ [] ∧ (∃ column ∈ readAsListed mixed, column.name.text ∈ (["total"] : List Text)) ∧
      (∀ name ∈ (["total"] : List Text), ',' ∉ name) ∧
      writesTo? ["total"] (styled (.ofText "orders" rfl) mixed "(1, 2, 3)") = some true ∧
      (∀ first ∈ uniform, ∀ second ∈ uniform, first.quoted = second.quoted) ∧
      readAsListed uniform = uniform := by
  intro id net total mixed uniform
  have named : mixed ≠ [] := List.cons_ne_nil _ _
  have listed : ∃ column ∈ readAsListed mixed, column.name.text ∈ (["total"] : List Text) :=
    ⟨⟨total, true⟩, List.mem_cons_self, List.mem_cons_self⟩
  have ordinary : ∀ name ∈ (["total"] : List Text), ',' ∉ name := by decide
  have oneStyle : ∀ first ∈ uniform, ∀ second ∈ uniform, first.quoted = second.quoted := by
    simp [uniform]
  obtain ⟨⟨answer, read, sufficient, necessary⟩, _⟩ :=
    writesTo?_styled (.ofText "orders" rfl) mixed "(1, 2, 3)" ["total"] named
  have yes := sufficient (necessary ordinary (sufficient listed))
  refine ⟨named, listed, ordinary, yes ▸ read, oneStyle, ?_⟩
  exact (writesTo?_styled (.ofText "orders" rfl) uniform [] [] (List.cons_ne_nil _ _)).2 oneStyle

/-- A column without backticks next to one in backticks is missed. -/
theorem writesTo?_styled_missed :
    let columns : List ListedColumn := [⟨.ofText "a" rfl, false⟩, ⟨.ofText "b" rfl, true⟩]
    (∃ column ∈ columns, column.name.text ∈ (["a"] : List Text)) ∧
      writesTo? ["a"] (styled (.ofText "t" rfl) columns "(1, 2)") = some false :=
  ⟨⟨_, List.mem_cons_self, List.mem_cons_self⟩, by decide⟩

end Insert

end DumpRestore
