/-
This file proves that quoting an identifier and reading it back are inverse. Writing a mark twice
is undone by reading two marks as one; the inside of backticks that the reader finds is always the
doubling of the name it stands for; and where a quoted name is followed by no backtick and by
something that can be read, the reader finds exactly that name. The backtick is the character 0x60.
A name that is plain enough to stand without backticks is one of word characters, at least one, and
perhaps a newline behind them.
-/

import DumpRestore.Identifier
import DumpRestore.Proofs.Text.Words
import Mathlib.Data.List.TakeDrop
import Mathlib.Data.List.TakeWhile

namespace DumpRestore

/-! ### Marks written twice -/

namespace Text

theorem double_nil (mark : Char) : double mark [] = [] := rfl

theorem double_cons_self (mark : Char) (rest : Text) :
    double mark (mark :: rest) = mark :: mark :: double mark rest := by
  rw [double, replaceChar, List.flatMap_cons, if_pos rfl]
  rfl

theorem double_cons_of_ne (mark character : Char) (rest : Text) (other : character ≠ mark) :
    double mark (character :: rest) = character :: double mark rest := by
  rw [double, replaceChar, List.flatMap_cons, if_neg other]
  rfl

/-- A text without the mark is its own doubling. -/
theorem double_of_not_mem (mark : Char) (text : Text) (absent : mark ∉ text) :
    double mark text = text := by
  induction text with
  | nil => rfl
  | cons character rest inductionHypothesis =>
    have other : character ≠ mark := fun same => absent (same ▸ List.mem_cons_self)
    rw [double_cons_of_ne mark character rest other,
      inductionHypothesis fun member => absent (List.mem_cons_of_mem character member)]

/-- Writing a mark twice brings in no character. -/
theorem mem_of_mem_double (mark character : Char) (text : Text)
    (member : character ∈ double mark text) : character ∈ text := by
  obtain ⟨source, inText, isCopy⟩ := List.mem_flatMap.mp member
  split at isCopy
  · rename_i same
    subst same
    simp only [List.mem_cons, List.not_mem_nil, or_false, or_self] at isCopy
    exact isCopy ▸ inText
  · exact List.mem_singleton.mp isCopy ▸ inText

/-- A doubling that starts with the mark starts with the mark twice. -/
theorem double_eq_cons_self (mark : Char) (content rest : Text) :
    double mark content = mark :: rest ↔
      ∃ further, content = mark :: further ∧ rest = mark :: double mark further := by
  constructor
  · intro equal
    cases content with
    | nil => cases equal
    | cons character further =>
      by_cases same : character = mark
      · subst same
        rw [double_cons_self] at equal
        exact ⟨further, rfl, (List.cons.inj equal).2.symm⟩
      · rw [double_cons_of_ne mark character further same] at equal
        exact absurd (List.cons.inj equal).1 same
  · rintro ⟨further, rfl, rfl⟩
    exact double_cons_self mark further

/-- A doubling that starts with another character is that of a text that does. -/
theorem double_eq_cons_of_ne (mark character : Char) (content rest : Text)
    (other : character ≠ mark) :
    double mark content = character :: rest ↔
      ∃ further, content = character :: further ∧ rest = double mark further := by
  constructor
  · intro equal
    cases content with
    | nil => cases equal
    | cons first further =>
      by_cases same : first = mark
      · subst same
        rw [double_cons_self] at equal
        exact absurd (List.cons.inj equal).1.symm other
      · rw [double_cons_of_ne mark first further same] at equal
        obtain ⟨rfl, behind⟩ := List.cons.inj equal
        exact ⟨further, rfl, behind.symm⟩
  · rintro ⟨further, rfl, rfl⟩
    exact double_cons_of_ne mark character further other

theorem undouble_cons_self (mark : Char) (rest : Text) :
    undouble mark (mark :: mark :: rest) = mark :: undouble mark rest :=
  if_pos ⟨rfl, rfl⟩

theorem undouble_cons_of_ne (mark character : Char) (rest : Text) (other : character ≠ mark) :
    undouble mark (character :: rest) = character :: undouble mark rest := by
  cases rest with
  | nil => rfl
  | cons second rest => exact if_neg fun both => other both.1

/-- Reading two marks as one undoes writing every mark twice. -/
theorem undouble_double (mark : Char) (text : Text) : undouble mark (double mark text) = text := by
  induction text with
  | nil => rfl
  | cons character rest inductionHypothesis =>
    by_cases same : character = mark
    · subst same
      rw [double_cons_self, undouble_cons_self, inductionHypothesis]
    · rw [double_cons_of_ne mark character rest same,
        undouble_cons_of_ne mark character _ same, inductionHypothesis]

/-- Other characters are not lost where two marks are read as one. -/
theorem mem_undouble (mark character : Char) (text : Text) (other : character ≠ mark)
    (member : character ∈ text) : character ∈ undouble mark text := by
  fun_induction undouble mark text with
  | case1 first second rest both inductionHypothesis =>
    rcases List.mem_cons.mp member with same | behind
    · exact absurd (same.trans both.1) other
    · rcases List.mem_cons.mp behind with same | inRest
      · exact absurd (same.trans both.2) other
      · exact List.mem_cons_of_mem mark (inductionHypothesis inRest)
  | case2 first second rest _ inductionHypothesis =>
    rcases List.mem_cons.mp member with rfl | behind
    · exact List.mem_cons_self
    · exact List.mem_cons_of_mem first (inductionHypothesis behind)
  | case3 => exact member

end Text

namespace Identifier

/-! ### Names without backticks -/

theorem backquote_of_not_mem (name : Text) (plain : '\x60' ∉ name) :
    backquote name = '\x60' :: name ++ ['\x60'] := by
  rw [backquote, Text.double_of_not_mem '\x60' name plain]

theorem unquote_of_not_mem (name : Text) (plain : '\x60' ∉ name) : unquote name = name := by
  rw [unquote, ← Text.double_of_not_mem '\x60' name plain, Text.undouble_double]
  exact (Text.double_of_not_mem '\x60' name plain).symm

/-- The inside of backticks that is a doubling is the quoted form of the name it stands for. -/
theorem backquote_unquote (inside : Text)
    (spelled : Text.double '\x60' (unquote inside) = inside) :
    backquote (unquote inside) = '\x60' :: inside ++ ['\x60'] := by
  rw [backquote, spelled]

/-! ### Steps of the reader -/

section Reader

variable {Rest : Type} (following? : Text → Option Rest)

/-- Two backticks belong to the inside where what follows them can be read, and the first of them
may end it otherwise. -/
theorem readInside?_pair (begun : Bool) (rest : Text) :
    readInside? following? begun ('\x60' :: '\x60' :: rest) =
      ((readInside? following? true rest).map (Prod.map ('\x60' :: '\x60' :: ·) id)).or
        (if begun then (following? ('\x60' :: rest)).map fun result => ([], result) else none) := by
  rw [readInside?]
  cases readInside? following? true rest <;> rfl

/-- A backtick that no other one follows ends the inside, if something stands in front of it. -/
theorem readInside?_close (begun : Bool) (rest : Text) (ends : rest.head? ≠ some '\x60') :
    readInside? following? begun ('\x60' :: rest) =
      if begun then (following? rest).map fun result => ([], result) else none := by
  rw [readInside?, if_pos rfl]
  intro after _ pair
  rw [pair] at ends
  exact ends rfl

theorem readInside?_cons_of_ne (begun : Bool) (character : Char) (rest : Text)
    (other : character ≠ '\x60') :
    readInside? following? begun (character :: rest) =
      (readInside? following? true rest).map fun (inside, result) =>
        (character :: inside, result) := by
  rw [readInside?, if_neg other]
  intro _ same
  exact absurd same other

/-! ### What the reader finds -/

/-- A text that the reader accepts is the inside it finds, a backtick, and what follows. -/
theorem readInside?_eq_some (begun : Bool) (text inside : Text) (result : Rest)
    (read : readInside? following? begun text = some (inside, result)) :
    ∃ rest, text = inside ++ '\x60' :: rest ∧ following? rest = some result := by
  fun_induction readInside? following? begun text generalizing inside with
  | case1 => cases read
  | case2 begun rest found _ further inductionHypothesis =>
    cases read
    obtain ⟨after, rfl, follows⟩ := inductionHypothesis found further
    exact ⟨after, rfl, follows⟩
  | case3 rest nothing =>
    obtain ⟨_, follows, equal⟩ := Option.map_eq_some_iff.mp read
    cases equal
    exact ⟨'\x60' :: rest, rfl, follows⟩
  | case4 => cases read
  | case5 rest =>
    obtain ⟨_, follows, equal⟩ := Option.map_eq_some_iff.mp read
    cases equal
    exact ⟨rest, rfl, follows⟩
  | case6 => cases read
  | case7 begun character rest _ other inductionHypothesis =>
    obtain ⟨⟨found, _⟩, further, equal⟩ := Option.map_eq_some_iff.mp read
    cases equal
    obtain ⟨after, rfl, follows⟩ := inductionHypothesis found further
    exact ⟨after, rfl, follows⟩

/-- The inside that the reader finds is the doubling of the name it stands for. -/
theorem double_unquote_of_readInside? (begun : Bool) (text inside : Text) (result : Rest)
    (read : readInside? following? begun text = some (inside, result)) :
    Text.double '\x60' (unquote inside) = inside := by
  unfold unquote
  fun_induction readInside? following? begun text generalizing inside with
  | case1 => cases read
  | case2 begun rest found _ further inductionHypothesis =>
    cases read
    rw [Text.undouble_cons_self, Text.double_cons_self, inductionHypothesis found further]
  | case3 =>
    obtain ⟨_, _, equal⟩ := Option.map_eq_some_iff.mp read
    cases equal
    rfl
  | case4 => cases read
  | case5 =>
    obtain ⟨_, _, equal⟩ := Option.map_eq_some_iff.mp read
    cases equal
    rfl
  | case6 => cases read
  | case7 begun character rest _ other inductionHypothesis =>
    obtain ⟨⟨found, _⟩, further, equal⟩ := Option.map_eq_some_iff.mp read
    cases equal
    rw [Text.undouble_cons_of_ne _ _ _ other, Text.double_cons_of_ne _ _ _ other,
      inductionHypothesis found further]

/-- The inside that the reader finds has at least one character. -/
theorem ne_nil_of_readInside? (text inside : Text) (result : Rest)
    (read : readInside? following? false text = some (inside, result)) : inside ≠ [] := by
  cases text with
  | nil => cases read
  | cons first text =>
    by_cases isMark : first = '\x60'
    · subst isMark
      by_cases pair : text.head? = some '\x60'
      · obtain ⟨rest, rfl⟩ := List.head?_eq_some_iff.mp pair
        rw [readInside?_pair, if_neg Bool.false_ne_true, Option.or_none] at read
        obtain ⟨_, _, equal⟩ := Option.map_eq_some_iff.mp read
        cases equal
        exact List.cons_ne_nil _ _
      · rw [readInside?_close following? false text pair, if_neg Bool.false_ne_true] at read
        cases read
    · rw [readInside?_cons_of_ne following? false first text isMark] at read
      obtain ⟨_, _, equal⟩ := Option.map_eq_some_iff.mp read
      cases equal
      exact List.cons_ne_nil _ _

/-- A quoted name is read back, whatever it holds, where no backtick follows it and what follows
can be read. -/
theorem readInside?_double (name rest : Text) (result : Rest) (begun : Bool)
    (nonempty : begun = true ∨ name ≠ []) (ends : rest.head? ≠ some '\x60')
    (follows : following? rest = some result) :
    readInside? following? begun (Text.double '\x60' name ++ '\x60' :: rest) =
      some (Text.double '\x60' name, result) := by
  induction name generalizing begun with
  | nil =>
    have started : begun = true := nonempty.resolve_right fun different => different rfl
    rw [started, Text.double_nil, List.nil_append, readInside?_close following? true rest ends,
      follows]
    rfl
  | cons character name inductionHypothesis =>
    by_cases same : character = '\x60'
    · subst same
      rw [Text.double_cons_self, List.cons_append, List.cons_append, readInside?_pair,
        inductionHypothesis true (Or.inl rfl)]
      rfl
    · rw [Text.double_cons_of_ne _ _ _ same, List.cons_append,
        readInside?_cons_of_ne following? begun character _ same,
        inductionHypothesis true (Or.inl rfl)]
      rfl

/-- Something is read of a quoted name wherever what follows its last backtick can be read. It need
not be that name, since more backticks may follow. -/
theorem isSome_readInside? (name rest : Text) (begun : Bool) (nonempty : begun = true ∨ name ≠ [])
    (follows : (following? rest).isSome = true) :
    (readInside? following? begun (Text.double '\x60' name ++ '\x60' :: rest)).isSome = true := by
  induction name generalizing begun with
  | nil =>
    have started : begun = true := nonempty.resolve_right fun different => different rfl
    rw [started, Text.double_nil, List.nil_append]
    by_cases pair : rest.head? = some '\x60'
    · obtain ⟨behind, rfl⟩ := List.head?_eq_some_iff.mp pair
      rw [readInside?_pair, if_pos rfl, Option.isSome_or, Option.isSome_map, Option.isSome_map,
        follows, Bool.or_true]
    · rw [readInside?_close following? true rest pair, if_pos rfl, Option.isSome_map, follows]
  | cons character name inductionHypothesis =>
    have further := inductionHypothesis true (Or.inl rfl)
    by_cases same : character = '\x60'
    · subst same
      obtain ⟨found, read⟩ := Option.isSome_iff_exists.mp further
      rw [Text.double_cons_self, List.cons_append, List.cons_append, readInside?_pair, read]
      rfl
    · rw [Text.double_cons_of_ne _ _ _ same, List.cons_append,
        readInside?_cons_of_ne following? begun character _ same, Option.isSome_map]
      exact further

end Reader

/-! ### Plain names -/

/-- A name of word characters, at least one. -/
def IsWord (name : Text) : Prop :=
  name ≠ [] ∧ ∀ character ∈ name, Text.isWordChar character = true

/-- A name of word characters with a newline behind it. -/
def IsWordLine (name : Text) : Prop :=
  ∃ word, IsWord word ∧ name = word ++ ['\n']

theorem span_isWordChar (word rest : Text)
    (inWord : ∀ character ∈ word, Text.isWordChar character = true) (ends : Text.EndsWord rest) :
    (word ++ rest).span Text.isWordChar = (word, rest) := by
  have stops : rest.takeWhile Text.isWordChar = [] ∧ rest.dropWhile Text.isWordChar = rest := by
    cases rest with
    | nil => exact ⟨rfl, rfl⟩
    | cons character rest =>
      have gap := Bool.eq_false_iff.mp (ends character rfl)
      exact ⟨List.takeWhile_cons_of_neg gap, List.dropWhile_cons_of_neg gap⟩
  rw [List.span_eq_takeWhile_dropWhile, List.takeWhile_append_of_pos inWord,
    List.dropWhile_append_of_pos inWord, stops.1, stops.2, List.append_nil]

theorem isPlain_iff (name : Text) : isPlain name = true ↔ IsWord name ∨ IsWordLine name := by
  constructor
  · intro plain
    have cut := List.takeWhile_append_dropWhile (p := Text.isWordChar) (l := name)
    have inWord : ∀ character ∈ name.takeWhile Text.isWordChar,
        Text.isWordChar character = true := List.all_eq_true.mp List.all_takeWhile
    rw [isPlain, List.span_eq_takeWhile_dropWhile] at plain
    generalize name.takeWhile Text.isWordChar = word at cut inWord plain
    cases word with
    | nil => cases plain
    | cons character word =>
      have isWord : IsWord (character :: word) := ⟨List.cons_ne_nil _ _, inWord⟩
      rw [Bool.or_eq_true, beq_iff_eq, beq_iff_eq] at plain
      rcases plain with nothing | newline
      · rw [nothing, List.append_nil] at cut
        exact .inl (cut ▸ isWord)
      · rw [newline] at cut
        exact .inr ⟨_, isWord, cut.symm⟩
  · have plain (word rest : Text) (isWord : IsWord word) (ends : rest = [] ∨ rest = ['\n']) :
        isPlain (word ++ rest) = true := by
      have endsWord : Text.EndsWord rest := by
        rcases ends with rfl | rfl
        · exact Text.endsWord_nil
        · exact Text.endsWord_cons '\n' [] (by decide)
      obtain ⟨character, others, rfl⟩ := List.exists_cons_of_ne_nil isWord.1
      rw [isPlain, span_isWordChar _ rest isWord.2 endsWord, Bool.or_eq_true, beq_iff_eq,
        beq_iff_eq]
      exact ends
    rintro (isWord | ⟨word, isWord, rfl⟩)
    · rw [← List.append_nil name]
      exact plain name [] isWord (.inl rfl)
    · exact plain word ['\n'] isWord (.inr rfl)

/-- Of the names that are no word, those with a newline behind a word are plain. -/
theorem isPlain_iff_of_not_isWord (name : Text) (noWord : ¬ IsWord name) :
    isPlain name = true ↔ IsWordLine name :=
  (isPlain_iff name).trans (or_iff_right noWord)

end Identifier

end DumpRestore
