/-
This file describes the texts that the reader of a table body passes over within a fragment: it
comes out behind them in plain SQL, at the depth at which it went in, and the fragment in progress
has grown by them. Words, quoted texts and balanced groups without comments are of that sort. Such
texts joined with commas are the fragments of their body.
-/

import DumpRestore.Proofs.Table.Stretches
import DumpRestore.Proofs.Text.Basic
import DumpRestore.Proofs.Text.Words

namespace DumpRestore.TableBody

/-! ### Words -/

theorem ne_of_onlyWords (character mark : Char) (words : Text.OnlyWords [character])
    (gap : Text.isWordChar mark = false) (visible : Text.isBlank mark = false) :
    character ≠ mark :=
  fun same => words.not_mem mark gap visible (same ▸ List.mem_cons_self)

theorem isQuote_of_onlyWords (character : Char) (words : Text.OnlyWords [character]) :
    Nesting.isQuote character = false := by
  simp only [Nesting.isQuote, Bool.or_eq_false_iff, beq_eq_false_iff_ne]
  exact ⟨⟨ne_of_onlyWords character '\'' words rfl rfl,
    ne_of_onlyWords character '"' words rfl rfl⟩, ne_of_onlyWords character '\x60' words rfl rfl⟩

/-- Words and blanks are taken, wherever they stand. -/
theorem fragmentsFrom_onlyWords (position : Nat) (depth : Int) (progress : Option Progress)
    (words rest : Text) (onlyWords : Text.OnlyWords words) :
    fragmentsFrom .plain position depth progress (words ++ rest) =
      fragmentsFrom .plain (position + words.length) depth (taken words progress) rest := by
  induction words generalizing position progress with
  | nil => cases progress <;> rfl
  | cons character words inductionHypothesis =>
    have first := onlyWords.singleton character List.mem_cons_self
    have other (mark : Char) (gap : Text.isWordChar mark = false)
        (visible : Text.isBlank mark = false) : character ≠ mark :=
      ne_of_onlyWords character mark first gap visible
    have quiet : Nesting.startsComment (character :: (words ++ rest)) = false := by
      simp only [Nesting.startsComment, Bool.or_eq_false_iff, Bool.and_eq_false_iff,
        beq_eq_false_iff_ne]
      exact ⟨⟨other '#' rfl rfl, Or.inl (other '/' rfl rfl)⟩, Or.inl (Or.inl (other '-' rfl rfl))⟩
    rw [List.cons_append,
      fragmentsFrom_plain position depth progress character _ (isQuote_of_onlyWords character first)
        (other '(' rfl rfl) (other ')' rfl rfl) (other ',' rfl rfl) quiet,
      inductionHypothesis _ _ fun other member => onlyWords other (List.mem_cons_of_mem _ member),
      ← taken_cons, List.length_cons, Nat.add_assoc, Nat.add_comm 1]

/-! ### Ways of the reader -/

/-- The reader comes out behind a text in plain SQL, at a depth, with the text taken into the
fragment in progress. -/
def ComesOut (place : Place) (position : Nat) (depth : Int) (current : Progress) (text : Text)
    (outer : Int) (rest : Text) : Prop :=
  fragmentsFrom place position depth (some current) (text ++ rest) =
    fragmentsFrom .plain (position + text.length) outer (some (current.grown text)) rest

/-- A way of the reader over the first part of a text and its way over the second part are its way
over the text. -/
theorem ComesOut.behind {place next : Place} {position : Nat} {depth inner outer : Int}
    {current : Progress} {rest : Text} (first second : Text)
    (step : fragmentsFrom place position depth (some current) (first ++ (second ++ rest)) =
      fragmentsFrom next (position + first.length) inner (some (current.grown first))
        (second ++ rest))
    (further : ComesOut next (position + first.length) inner (current.grown first) second outer
      rest) :
    ComesOut place position depth current (first ++ second) outer rest := by
  have joined := taken_append first second (some current)
  unfold ComesOut at further ⊢
  rw [List.append_assoc, step, further, List.length_append, Nat.add_assoc]
  exact congrArg (fragmentsFrom .plain _ outer · rest) joined.symm

/-! ### Groups -/

/-- The place of a reader in or outside a quoted stretch. -/
def placeOf : Option Char → Place
  | none => .plain
  | some quote => .quoted quote

theorem eq_some_of_map_add {answer : Option Nat} {steps length : Nat}
    (mapped : answer.map (· + steps) = some (length + steps)) : answer = some length := by
  obtain ⟨found, rfl, equal⟩ := Option.map_eq_some_iff.mp mapped
  rw [Nat.add_right_cancel equal]

section Groups

variable (inner : Nat) (quote : Option Char) (inside rest : Text) (position : Nat) (outer : Int)
  (current : Progress)

/-- A parenthesis that closes an inner group, and where the reader comes out behind it. -/
theorem comesOut_close (deep : 1 ≤ outer)
    (closes : Nesting.closingLength? inner quote [')'] = some 1) :
    ComesOut (placeOf quote) position (outer + inner + 1) current [')'] outer rest := by
  cases quote with
  | some quote =>
    rw [Nesting.closingLength?.eq_def] at closes
    dsimp only at closes
    split at closes
    · cases closes
    · split at closes <;> cases closes
  | none =>
    cases inner with
    | succ inner => cases closes
    | zero =>
      have step := fragmentsFrom_close position (outer + 1) rest current (by omega)
      rw [Int.add_sub_cancel] at step
      rw [Int.natCast_zero, Int.add_zero]
      exact step

/-- The reader of a table body follows the reader that looks for a closing parenthesis, where no
comment starts: it comes out behind that parenthesis, at the depth around it. -/
theorem comesOut_closing (deep : 1 ≤ outer)
    (closes : Nesting.closingLength? inner quote (inside ++ [')']) = some (inside.length + 1))
    (quiet : Nesting.opensComment quote inside = false) :
    ComesOut (placeOf quote) position (outer + inner + 1) current (inside ++ [')']) outer rest := by
  fun_induction Nesting.opensComment quote inside generalizing inner position current with
  | case1 quote => exact comesOut_close inner quote rest position outer current deep closes
  | case2 quote character escaped =>
    rw [List.singleton_append, Nesting.closingLength?_escape _ _ _ _ _ escaped] at closes
    cases closes
  | case3 quote character escaped next after inductionHypothesis =>
    rw [List.cons_append, List.cons_append,
      Nesting.closingLength?_escape _ _ _ _ _ escaped] at closes
    exact .behind [character, next] _ (fragmentsFrom_escape _ _ _ _ _ _ _ escaped)
      (inductionHypothesis inner _ _ (eq_some_of_map_add closes) quiet)
  | case4 quote unescaped =>
    have noEscape := Bool.eq_false_iff.mpr unescaped
    by_cases same : ')' = quote
    · subst same
      rw [List.singleton_append, Nesting.closingLength?_doubled _ _ _ noEscape] at closes
      cases closes
    · rw [List.singleton_append, Nesting.closingLength?_unquote _ _ _ _ noEscape same] at closes
      refine .behind [quote] [')'] (fragmentsFrom_unquote _ _ _ _ _ noEscape ?_)
        (comesOut_close inner none rest _ outer _ deep (eq_some_of_map_add closes))
      exact fun equal => same (Option.some.inj equal)
  | case5 quote after unescaped inductionHypothesis =>
    have noEscape := Bool.eq_false_iff.mpr unescaped
    rw [List.cons_append, List.cons_append, Nesting.closingLength?_doubled _ _ _ noEscape] at closes
    exact .behind [quote, quote] _ (fragmentsFrom_doubled _ _ _ _ _ noEscape)
      (inductionHypothesis inner _ _ (eq_some_of_map_add closes) quiet)
  | case6 quote next after unescaped other inductionHypothesis =>
    have noEscape := Bool.eq_false_iff.mpr unescaped
    rw [List.cons_append, List.cons_append,
      Nesting.closingLength?_unquote _ _ _ _ noEscape other] at closes
    refine .behind [quote] _ (fragmentsFrom_unquote _ _ _ _ _ noEscape ?_)
      (inductionHypothesis inner _ _ (eq_some_of_map_add closes) quiet)
    exact fun equal => other (Option.some.inj equal)
  | case7 quote character inside unescaped other inductionHypothesis =>
    have noEscape := Bool.eq_false_iff.mpr unescaped
    rw [List.cons_append, Nesting.closingLength?_quoted _ _ _ _ noEscape other] at closes
    exact .behind [character] _ (fragmentsFrom_quoted _ _ _ _ _ _ noEscape other)
      (inductionHypothesis inner _ _ (eq_some_of_map_add closes) quiet)
  | case8 character inside inductionHypothesis =>
    obtain ⟨starts, opens⟩ := Bool.or_eq_false_iff.mp quiet
    rw [List.cons_append] at closes
    by_cases isQuote : Nesting.isQuote character = true
    · rw [if_pos isQuote] at inductionHypothesis opens
      rw [Nesting.closingLength?_quote _ _ _ isQuote] at closes
      exact .behind [character] _ (fragmentsFrom_quote _ _ _ _ _ isQuote)
        (inductionHypothesis inner _ _ (eq_some_of_map_add closes) opens)
    rw [if_neg isQuote] at inductionHypothesis opens
    by_cases isOpen : character = '('
    · subst isOpen
      rw [Nesting.closingLength?_open] at closes
      have further := inductionHypothesis (inner + 1) (position + 1) (current.grown ['('])
        (eq_some_of_map_add closes) opens
      rw [Int.natCast_succ, ← Int.add_assoc outer] at further
      exact .behind ['('] _ (fragmentsFrom_open _ _ _ _) further
    by_cases isClose : character = ')'
    · subst isClose
      cases inner with
      | zero =>
        have length : 1 = (')' :: inside).length + 1 := Option.some.inj closes
        rw [List.length_cons] at length
        omega
      | succ inner =>
        rw [Nesting.closingLength?_close] at closes
        have step := fragmentsFrom_close position (outer + inner + 1 + 1) (inside ++ [')'] ++ rest)
          current (by omega)
        rw [Int.add_sub_cancel] at step
        rw [Int.natCast_succ, ← Int.add_assoc]
        exact .behind [')'] _ step
          (inductionHypothesis inner _ _ (eq_some_of_map_add closes) opens)
    have plain := Bool.eq_false_iff.mpr isQuote
    rw [Nesting.closingLength?_plain _ _ _ plain isOpen isClose] at closes
    have further := inductionHypothesis inner (position + 1) (current.grown [character])
      (eq_some_of_map_add closes) opens
    by_cases isComma : character = ','
    · subst isComma
      exact .behind [','] _ (fragmentsFrom_comma _ _ _ _ (by omega)) further
    · have notStarts : Nesting.startsComment (character :: (inside ++ [')'] ++ rest)) = false := by
        rw [List.append_assoc]
        exact (Nesting.startsComment_append (character :: inside) rest ')' (by decide)).trans starts
      exact .behind [character] _
        (fragmentsFrom_plain _ _ _ _ _ plain isOpen isClose isComma notStarts) further

end Groups

/-! ### Texts that are passed over -/

/-- A text goes on with another one unless it ends with a quote that the other one starts with: that
quote would be read as one written twice. -/
def GoesOn (first second : Text) : Prop :=
  ∀ quote ∈ first.getLast?, Nesting.isQuote quote = true → second.head? ≠ some quote

theorem goesOn_of_ends (first second : Text) (last : Char)
    (plain : Nesting.isQuote last = false) : GoesOn (first ++ [last]) second := by
  intro quote isLast isQuote
  rw [List.getLast?_concat, Option.mem_some] at isLast
  rw [← isLast, plain] at isQuote
  cases isQuote

theorem goesOn_of_starts (first second : Text) (character : Char)
    (plain : Nesting.isQuote character = false) : GoesOn first (character :: second) := by
  intro quote _ isQuote same
  rw [← Option.some.inj same, plain] at isQuote
  cases isQuote

theorem goesOn_nil (first : Text) : GoesOn first [] := by
  intro quote _ _ impossible
  cases impossible

theorem goesOn_spaced (first : Text) (words : List Text.Word) :
    GoesOn first (Text.spaced words) := by
  cases words with
  | nil => exact goesOn_nil first
  | cons word words =>
    rw [Text.spaced_cons]
    exact goesOn_of_starts first _ ' ' rfl

theorem goesOn_of_onlyWords (words second : Text) (onlyWords : Text.OnlyWords words) :
    GoesOn words second := by
  intro quote isLast isQuote
  have plain := isQuote_of_onlyWords quote
    (onlyWords.singleton quote (List.mem_of_getLast? isLast))
  rw [plain] at isQuote
  cases isQuote

/-- A text is passed over at a depth where the reader comes out behind it at that depth. -/
def Passed (depth : Int) (text : Text) : Prop :=
  ∀ (position : Nat) (current : Progress) (rest : Text), GoesOn text rest →
    ComesOut .plain position depth current text depth rest

theorem passed_nil (depth : Int) : Passed depth [] :=
  fun _ _ _ _ => rfl

/-- Texts that are passed over may follow one another where the first goes on with the second. -/
theorem Passed.append {depth : Int} {first second : Text} (firstPassed : Passed depth first)
    (secondPassed : Passed depth second) (goesOn : GoesOn first second) :
    Passed depth (first ++ second) := by
  intro position current rest ends
  cases second with
  | nil =>
    rw [List.append_nil] at ends ⊢
    exact firstPassed position current rest ends
  | cons character second =>
    have firstGoesOn : GoesOn first (character :: second ++ rest) := goesOn
    have secondGoesOn : GoesOn (character :: second) rest := by
      intro quote isLast
      refine ends quote ?_
      rw [List.getLast?_append, Option.mem_def.mp isLast]
      rfl
    exact .behind first _ (firstPassed position current _ firstGoesOn)
      (secondPassed _ _ rest secondGoesOn)

theorem passed_onlyWords (depth : Int) (words : Text) (onlyWords : Text.OnlyWords words) :
    Passed depth words :=
  fun position current rest _ =>
    fragmentsFrom_onlyWords position depth (some current) words rest onlyWords

theorem passed_comma (depth : Int) (inner : depth ≠ 1) : Passed depth [','] :=
  fun position current rest _ => fragmentsFrom_comma position depth rest current inner

/-- A quoted name is passed over, whatever it holds. -/
theorem passed_backquote (depth : Int) (name : Text) :
    Passed depth (Identifier.backquote name) := by
  intro position current rest ends
  refine (isLiteralBefore_backquote name rest (ends '\x60' ?_ rfl)).body position depth
    (some current)
  rw [Identifier.backquote, List.getLast?_concat]
  rfl

/-- A literal in apostrophes is passed over where no backslash stands in it. -/
theorem passed_literal (depth : Int) (content : Text) (plain : '\\' ∉ content) :
    Passed depth ('\'' :: (Text.double '\'' content ++ ['\''])) := by
  intro position current rest ends
  have unescaped : ∀ character ∈ content, Nesting.escapes '\'' character = false := by
    intro character member
    have other : character ≠ '\\' := fun same => plain (same ▸ member)
    rw [Nesting.escapes, beq_false_of_ne other, Bool.false_and]
  refine ((enclosed_double '\'' content unescaped).isLiteralBefore rfl rest
    (ends '\'' ?_ rfl)).body position depth (some current)
  rw [← List.cons_append, List.getLast?_concat]
  rfl

/-- A group in parentheses is passed over where what stands in it is, one deeper. -/
theorem Passed.group {depth : Int} {inside : Text} (passed : Passed (depth + 1) inside)
    (deep : 1 ≤ depth) : Passed depth ('(' :: (inside ++ [')'])) := by
  intro position current rest _
  have closes := fragmentsFrom_close (position + 1 + inside.length) (depth + 1) rest
    ((current.grown ['(']).grown inside) (by omega)
  rw [Int.add_sub_cancel] at closes
  have opened := passed (position + 1) (current.grown ['(']) (')' :: rest)
    (goesOn_of_starts inside rest ')' rfl)
  exact .behind ['('] _ (fragmentsFrom_open _ _ _ _) (.behind inside [')'] opened closes)

/-- A balanced group in which no comment starts is passed over. -/
theorem passed_balanced (depth : Int) (inside : Text) (deep : 1 ≤ depth)
    (balanced : Nesting.Balanced inside) (quiet : Nesting.opensComment none inside = false) :
    Passed depth ('(' :: (inside ++ [')'])) := by
  intro position current rest _
  have closed := comesOut_closing 0 none inside rest (position + 1) depth (current.grown ['(']) deep
    balanced quiet
  rw [Int.natCast_zero, Int.add_zero] at closed
  exact .behind ['('] _ (fragmentsFrom_open _ _ _ _) closed

/-! ### Texts between commas -/

/-- A text is a fragment of its own where a comma or the closing parenthesis of the body follows. -/
def IsFragment (text : Text) : Prop :=
  ∀ (position : Nat) (mark : Char) (rest : Text), mark = ',' ∨ mark = ')' →
    ComesOut .plain position 1 { offset := position, reversed := [] } text 1 (mark :: rest)

theorem Passed.isFragment {text : Text} (passed : Passed 1 text) : IsFragment text := by
  intro position mark rest isEnd
  refine passed position _ _ (goesOn_of_starts text rest mark ?_)
  rcases isEnd with rfl | rfl <;> rfl

/-- The fragments that texts are which stand behind one another from a position on, with a comma
between neighbours. -/
def fragmentsOf (position : Nat) : List Text → List Fragment
  | [] => []
  | text :: texts =>
    { text, offset := position } :: fragmentsOf (position + text.length + 1) texts

theorem fragment_grown (position : Nat) (text : Text) :
    (Progress.grown text { offset := position, reversed := [] }).fragment =
      { text, offset := position } := by
  rw [Progress.grown, List.append_nil, Progress.fragment, List.reverse_reverse]

/-- A body is cut into the texts that were joined, whatever follows it. -/
theorem fragmentsFrom_join (position : Nat) (texts : List Text) (suffix : Text)
    (nonempty : texts ≠ []) (whole : ∀ text ∈ texts, IsFragment text) :
    fragmentsFrom .plain position 1 (some { offset := position, reversed := [] })
        (Text.join "," texts ++ ')' :: suffix) = fragmentsOf position texts := by
  induction texts generalizing position with
  | nil => exact absurd rfl nonempty
  | cons text texts inductionHypothesis =>
    have first := whole text List.mem_cons_self position
    cases texts with
    | nil =>
      show fragmentsFrom .plain position 1 _ (text ++ ')' :: suffix) = _
      rw [first ')' suffix (Or.inr rfl), fragmentsFrom_end, fragment_grown]
      rfl
    | cons second texts =>
      have further := inductionHypothesis (position + text.length + 1)
        (List.cons_ne_nil second texts) fun other member =>
          whole other (List.mem_cons_of_mem text member)
      have spread : Text.join "," (text :: second :: texts) ++ ')' :: suffix =
          text ++ ',' :: (Text.join "," (second :: texts) ++ ')' :: suffix) := by
        rw [Text.join_cons_cons, List.append_assoc, List.append_assoc]
        rfl
      rw [spread, first ',' _ (Or.inl rfl), fragmentsFrom_cut, fragment_grown, further]
      rfl

end DumpRestore.TableBody
