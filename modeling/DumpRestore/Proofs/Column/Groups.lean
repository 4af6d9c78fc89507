/-
This file gives the grammar of groups: a parenthesis, any number of items, and the parenthesis that
closes the first one, where an item is a character, a group or a literal. The reader that looks for
a closing parenthesis keeps no more than a depth and a quote, and it finds exactly the groups.

The grammar is ambiguous where two literals of one quote stand side by side: they may as well be one
literal in which the quote is written twice. The reader always takes them for one. It makes no
difference, since a quote that ends one literal and begins the next leaves the reader where a quote
written twice does.
-/

import DumpRestore.Proofs.Table.Stretches

namespace DumpRestore.Nesting

open TableBody (Enclosed)

/-! ### The grammar -/

/-- What may stand between the parentheses of a group: characters that are no quotes and no
parentheses, groups, and literals. A literal may hold its quote written twice and, unless it is in
backticks, characters behind a backslash. -/
inductive Items : Text → Prop
  | nil : Items []
  | plain {character : Char} {rest : Text} (notQuote : isQuote character = false)
      (notOpen : character ≠ '(') (notClose : character ≠ ')') (further : Items rest) :
      Items (character :: rest)
  | group {inside rest : Text} (inner : Items inside) (further : Items rest) :
      Items ('(' :: (inside ++ ')' :: rest))
  | literal {quote : Char} {inside rest : Text} (opens : isQuote quote = true)
      (enclosed : Enclosed quote inside) (further : Items rest) :
      Items (quote :: (inside ++ quote :: rest))

/-- A group: items in parentheses. -/
def IsGroup (text : Text) : Prop :=
  ∃ inside, Items inside ∧ text = '(' :: (inside ++ [')'])

/-! ### Every group is read -/

/-- The end of a literal is the end of its stretch, also where the next literal has the same
quote. -/
theorem closingLength?_leave (depth : Nat) (quote : Char) (rest : Text)
    (opens : isQuote quote = true) :
    closingLength? depth (some quote) (quote :: rest) =
      (closingLength? depth none rest).map (· + 1) := by
  have unescaped := escapes_self_of_isQuote quote opens
  cases rest with
  | nil =>
    rw [closingLength?.eq_def]
    exact (if_neg (Bool.eq_false_iff.mp unescaped)).trans (if_pos rfl)
  | cons next rest =>
    by_cases same : next = quote
    · subst same
      rw [closingLength?_doubled _ _ _ unescaped, closingLength?_quote _ _ _ opens, Option.map_map]
      rfl
    · exact closingLength?_unquote _ _ _ _ unescaped same

/-- The inside of a literal is passed in its quotes. -/
theorem closingLength?_enclosed (depth : Nat) {quote : Char} {inside : Text}
    (opens : isQuote quote = true) (enclosed : Enclosed quote inside) (rest : Text) :
    closingLength? depth (some quote) (inside ++ rest) =
      (closingLength? depth (some quote) rest).map (· + inside.length) := by
  induction enclosed with
  | nil => exact Option.map_id'.symm
  | escape escaped _ inductionHypothesis =>
    rw [List.cons_append, List.cons_append, closingLength?_escape _ _ _ _ _ escaped,
      inductionHypothesis, Option.map_map]
    rfl
  | doubled _ inductionHypothesis =>
    rw [List.cons_append, List.cons_append,
      closingLength?_doubled _ _ _ (escapes_self_of_isQuote quote opens), inductionHypothesis,
      Option.map_map]
    rfl
  | plain unescaped other _ inductionHypothesis =>
    rw [List.cons_append, closingLength?_quoted _ _ _ _ unescaped other, inductionHypothesis,
      Option.map_map]
    rfl

/-- Items are passed at any depth, whatever stands behind them. -/
theorem Items.closingLength?_append {inside : Text} (items : Items inside) (depth : Nat)
    (rest : Text) :
    closingLength? depth none (inside ++ rest) =
      (closingLength? depth none rest).map (· + inside.length) := by
  induction items generalizing depth rest with
  | nil => exact Option.map_id'.symm
  | plain notQuote notOpen notClose _ inductionHypothesis =>
    rw [List.cons_append, closingLength?_plain _ _ _ notQuote notOpen notClose, inductionHypothesis,
      Option.map_map]
    rfl
  | @group inner further _ _ innerHypothesis furtherHypothesis =>
    rw [List.cons_append, List.append_assoc, List.cons_append, closingLength?_open, innerHypothesis,
      closingLength?_close, furtherHypothesis, Option.map_map, Option.map_map, Option.map_map]
    refine congrArg (Option.map · _) (funext fun length => ?_)
    simp only [Function.comp_apply, List.length_cons, List.length_append]
    omega
  | @literal quote inside further opens enclosed _ inductionHypothesis =>
    rw [List.cons_append, List.append_assoc, List.cons_append, closingLength?_quote _ _ _ opens,
      closingLength?_enclosed depth opens enclosed, closingLength?_leave _ _ _ opens,
      inductionHypothesis, Option.map_map, Option.map_map, Option.map_map]
    refine congrArg (Option.map · _) (funext fun length => ?_)
    simp only [Function.comp_apply, List.length_cons, List.length_append]
    omega

/-! ### What is read is a group -/

/-- What the reader passes outside quotes: items, and for each further level its closing parenthesis
and more items, up to the parenthesis that closes the last level. -/
inductive Levels : (depth : Nat) → Text → Prop
  | last {inside : Text} (items : Items inside) : Levels 0 (inside ++ [')'])
  | further {depth : Nat} {inside rest : Text} (items : Items inside) (outer : Levels depth rest) :
      Levels (depth + 1) (inside ++ ')' :: rest)

/-- An item may stand in front. -/
theorem Levels.prepend {depth : Nat} {text : Text} (levels : Levels depth text) (front : Text)
    (item : ∀ rest, Items rest → Items (front ++ rest)) : Levels depth (front ++ text) := by
  cases levels with
  | @last inside items =>
    rw [← List.append_assoc]
    exact .last (item inside items)
  | @further _ inside _ items outer =>
    rw [← List.append_assoc]
    exact .further (item inside items) outer

/-- An opening parenthesis makes the first of two levels a group on the second. -/
theorem Levels.cons_open {depth : Nat} {text : Text} (levels : Levels (depth + 1) text) :
    Levels depth ('(' :: text) := by
  cases levels with
  | @further _ inside rest items outer =>
    have joined : '(' :: (inside ++ ')' :: rest) = '(' :: (inside ++ [')']) ++ rest := by
      rw [List.cons_append, List.append_assoc, List.singleton_append]
    rw [joined]
    refine outer.prepend _ fun behind further => ?_
    rw [List.cons_append, List.append_assoc, List.singleton_append]
    exact .group items further

/-- What the reader passes from any state: the rest of the literal in which it stands, if it stands
in one, and then its levels. -/
def Passes (depth : Nat) : (quote : Option Char) → Text → Prop
  | none, text => Levels depth text
  | some quote, text =>
    ∃ inside rest, text = inside ++ quote :: rest ∧ Enclosed quote inside ∧ Levels depth rest

/-- The induction is along the steps of the reader: each of them puts a character in front of the
literal, or an item in front of the levels. -/
theorem Closes.passes {depth : Nat} {quote : Option Char} {text : Text}
    (closes : Closes depth quote text) : Passes depth quote text := by
  induction closes with
  | @escape _ _ character next _ escaped _ inductionHypothesis =>
    obtain ⟨inside, rest, rfl, enclosed, levels⟩ := inductionHypothesis
    exact ⟨character :: next :: inside, rest, rfl, .escape escaped enclosed, levels⟩
  | @doubled _ quote _ _ _ inductionHypothesis =>
    obtain ⟨inside, rest, rfl, enclosed, levels⟩ := inductionHypothesis
    exact ⟨quote :: quote :: inside, rest, rfl, .doubled enclosed, levels⟩
  | unquote _ _ _ inductionHypothesis => exact ⟨[], _, rfl, .nil, inductionHypothesis⟩
  | @quoted _ _ character _ unescaped other _ inductionHypothesis =>
    obtain ⟨inside, rest, rfl, enclosed, levels⟩ := inductionHypothesis
    exact ⟨character :: inside, rest, rfl, .plain unescaped other enclosed, levels⟩
  | @quote _ character _ opens _ inductionHypothesis =>
    obtain ⟨inside, rest, rfl, enclosed, levels⟩ := inductionHypothesis
    have joined : character :: (inside ++ character :: rest) =
        character :: (inside ++ [character]) ++ rest := by
      rw [List.cons_append, List.append_assoc, List.singleton_append]
    show Levels _ _
    rw [joined]
    refine levels.prepend _ fun behind further => ?_
    rw [List.cons_append, List.append_assoc, List.singleton_append]
    exact .literal opens enclosed further
  | deeper _ inductionHypothesis => exact inductionHypothesis.cons_open
  | shallower _ inductionHypothesis => exact Levels.further .nil inductionHypothesis
  | @plain _ character _ notQuote notOpen notClose _ inductionHypothesis =>
    exact Levels.prepend inductionHypothesis [character] fun _ further =>
      .plain notQuote notOpen notClose further
  | last => exact Levels.last .nil

/-- The balanced texts are the items of groups. -/
theorem balanced_iff_items (inside : Text) : Balanced inside ↔ Items inside := by
  constructor
  · intro balanced
    have levels : Levels 0 (inside ++ [')']) := balanced.closes.passes
    generalize equal : inside ++ [')'] = text at levels
    cases levels with
    | last items =>
      rw [List.append_cancel_right equal]
      exact items
  · intro items
    have closing : closingLength? 0 none [')'] = some 1 := rfl
    rw [Balanced, items.closingLength?_append, closing, Option.map_some, Nat.add_comm]

/-! ### Positions -/

/-- How far the reader gets behind an opening parenthesis is how far a group extends there. -/
theorem closingLength?_eq_some_iff_isGroup (behind : Text) (length : Nat) :
    closingLength? 0 none behind = some length ↔
      length ≤ behind.length ∧ IsGroup ('(' :: behind.take length) := by
  constructor
  · intro found
    obtain ⟨inside, rest, rfl, rfl, balanced⟩ := exists_balanced behind length found
    have taken : (inside ++ ')' :: rest).take (inside.length + 1) = inside ++ [')'] :=
      List.take_length_add_append 1
    refine ⟨?_, inside, (balanced_iff_items inside).mp balanced, congrArg ('(' :: ·) taken⟩
    rw [List.length_append, List.length_cons]
    omega
  · rintro ⟨within, inside, items, equal⟩
    have taken : behind.take length = inside ++ [')'] := (List.cons.inj equal).2
    have found := ((balanced_iff_items inside).mpr items).closes.closingLength?_append
      (behind.drop length)
    rwa [← taken, List.take_append_drop, List.length_take_of_le within] at found

/-- No group starts at an opening parenthesis that is not closed. -/
theorem closingLength?_eq_none_iff_isGroup (behind : Text) :
    closingLength? 0 none behind = none ↔ ∀ start, start <+: '(' :: behind → ¬ IsGroup start := by
  rw [Option.eq_none_iff_forall_ne_some]
  constructor
  · rintro unclosed _ starts ⟨inside, items, rfl⟩
    have within := (List.cons_prefix_cons.mp starts).2
    refine unclosed (inside ++ [')']).length ((closingLength?_eq_some_iff_isGroup behind _).mpr ?_)
    exact ⟨within.length_le, inside, items, by rw [← List.prefix_iff_eq_take.mp within]⟩
  · intro noGroup length found
    have group := ((closingLength?_eq_some_iff_isGroup behind length).mp found).2
    exact noGroup _ (List.cons_prefix_cons.mpr ⟨rfl, List.take_prefix length behind⟩) group

/-- The position behind the parenthesis that closes the one at a position. -/
def closingPosition? (text : Text) (position : Nat) : Option Nat :=
  (closingLength? 0 none (text.drop (position + 1))).map (position + 1 + ·)

section Positions

variable (text : Text) (position : Nat) (opens : text[position]? = some '(')

include opens

theorem drop_eq_cons_open : text.drop position = '(' :: text.drop (position + 1) := by
  obtain ⟨within, here⟩ := List.getElem?_eq_some_iff.mp opens
  rw [List.drop_eq_getElem_cons within, here]

/-- A stretch that starts at an opening parenthesis is a group exactly if it ends behind the
parenthesis that closes it. -/
theorem closingPosition?_eq_some_iff (finish : Nat) :
    closingPosition? text position = some finish ↔
      finish ≤ text.length ∧ IsGroup ((text.take finish).drop position) := by
  have stretch : (text.take finish).drop position =
      ('(' :: text.drop (position + 1)).take (finish - position) := by
    rw [List.drop_take, drop_eq_cons_open text position opens]
  obtain ⟨within, _⟩ := List.getElem?_eq_some_iff.mp opens
  rw [closingPosition?, Option.map_eq_some_iff, stretch]
  constructor
  · rintro ⟨length, found, rfl⟩
    obtain ⟨short, group⟩ := (closingLength?_eq_some_iff_isGroup _ length).mp found
    rw [List.length_drop] at short
    have counted : position + 1 + length - position = length + 1 := by omega
    rw [counted, List.take_succ_cons]
    exact ⟨by omega, group⟩
  · rintro ⟨short, group⟩
    cases counted : finish - position with
    | zero =>
      obtain ⟨inside, _, equal⟩ := group
      rw [counted, List.take_zero] at equal
      cases equal
    | succ length =>
      rw [counted, List.take_succ_cons] at group
      refine ⟨length, (closingLength?_eq_some_iff_isGroup _ length).mpr ⟨?_, group⟩, by omega⟩
      rw [List.length_drop]
      omega

end Positions

/-- The reader finds the position behind a group, for each opening parenthesis of a text. No two
groups start at one place, and where the reader finds nothing, none starts there. -/
theorem closingPosition?_delimits (text : Text) (position : Nat)
    (opens : text[position]? = some '(') :
    (∀ finish, closingPosition? text position = some finish ↔
      finish ≤ text.length ∧ IsGroup ((text.take finish).drop position)) ∧
    (∀ first ≤ text.length, ∀ second ≤ text.length,
      IsGroup ((text.take first).drop position) → IsGroup ((text.take second).drop position) →
        first = second) ∧
    (closingPosition? text position = none ↔
      ∀ start, start <+: text.drop position → ¬ IsGroup start) := by
  have exactly := closingPosition?_eq_some_iff text position opens
  refine ⟨exactly, fun first firstWithin second secondWithin firstGroup secondGroup => ?_, ?_⟩
  · have found := (exactly first).mpr ⟨firstWithin, firstGroup⟩
    rw [(exactly second).mpr ⟨secondWithin, secondGroup⟩] at found
    exact (Option.some.inj found).symm
  · rw [closingPosition?, Option.map_eq_none_iff, closingLength?_eq_none_iff_isGroup,
      drop_eq_cons_open text position opens]

/-- A text with an expression in which parentheses stand in literals and in inner groups, with
quotes that are escaped or written twice. -/
def quotedExpression : Text :=
  "x AS (f(a, ':)''\\')', `)`) = \"(\") STORED"

/-- The expression is read to its end. -/
theorem closingPosition?_delimits_quotedExpression :
    quotedExpression[5]? = some '(' ∧ closingPosition? quotedExpression 5 = some 33 ∧
      IsGroup ((quotedExpression.take 33).drop 5) := by
  have opens : quotedExpression[5]? = some '(' := by decide +kernel
  have found : closingPosition? quotedExpression 5 = some 33 := by decide +kernel
  obtain ⟨exactly, _, _⟩ := closingPosition?_delimits quotedExpression 5 opens
  exact ⟨opens, found, ((exactly 33).mp found).2⟩

end DumpRestore.Nesting
