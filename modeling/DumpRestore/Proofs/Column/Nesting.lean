/-
This file says which texts are balanced, in the sense of the reader that looks for the parenthesis
closing an expression, and which hold the start of a comment outside quotes. The parenthesis that
closes a balanced text stands directly behind it, whatever comes after.
-/

import DumpRestore.Column.Nesting
import DumpRestore.Proofs.Text.Words

namespace DumpRestore.Nesting

/-! ### Steps of the reader -/

section Steps

variable (depth : Nat) (quote character next : Char) (rest : Text)

theorem closingLength?_escape (escaped : escapes quote character = true) :
    closingLength? depth (some quote) (character :: next :: rest) =
      (closingLength? depth (some quote) rest).map (· + 2) := by
  rw [closingLength?.eq_def]
  exact if_pos escaped

theorem closingLength?_doubled (unescaped : escapes quote quote = false) :
    closingLength? depth (some quote) (quote :: quote :: rest) =
      (closingLength? depth (some quote) rest).map (· + 2) := by
  rw [closingLength?.eq_def]
  exact (if_neg (Bool.eq_false_iff.mp unescaped)).trans ((if_pos rfl).trans (if_pos rfl))

theorem closingLength?_unquote (unescaped : escapes quote quote = false) (other : next ≠ quote) :
    closingLength? depth (some quote) (quote :: next :: rest) =
      (closingLength? depth none (next :: rest)).map (· + 1) := by
  rw [closingLength?.eq_def]
  exact (if_neg (Bool.eq_false_iff.mp unescaped)).trans ((if_pos rfl).trans (if_neg other))

theorem closingLength?_quoted (unescaped : escapes quote character = false)
    (other : character ≠ quote) :
    closingLength? depth (some quote) (character :: rest) =
      (closingLength? depth (some quote) rest).map (· + 1) := by
  rw [closingLength?.eq_def]
  exact (if_neg (Bool.eq_false_iff.mp unescaped)).trans (if_neg other)

theorem closingLength?_quote (opens : isQuote character = true) :
    closingLength? depth none (character :: rest) =
      (closingLength? depth (some character) rest).map (· + 1) := by
  rw [closingLength?.eq_def]
  exact if_pos opens

theorem closingLength?_open :
    closingLength? depth none ('(' :: rest) =
      (closingLength? (depth + 1) none rest).map (· + 1) := rfl

theorem closingLength?_close :
    closingLength? (depth + 1) none (')' :: rest) =
      (closingLength? depth none rest).map (· + 1) := rfl

theorem closingLength?_plain (plain : isQuote character = false) (notOpen : character ≠ '(')
    (notClose : character ≠ ')') :
    closingLength? depth none (character :: rest) =
      (closingLength? depth none rest).map (· + 1) := by
  rw [closingLength?.eq_def]
  exact (if_neg (Bool.eq_false_iff.mp plain)).trans ((if_neg notOpen).trans (if_neg notClose))

end Steps

/-! ### Texts that end with their closing parenthesis -/

/-- A text that ends with the parenthesis that closes it, along the steps of the reader. -/
inductive Closes : (depth : Nat) → (quote : Option Char) → Text → Prop where
  | escape {depth : Nat} {quote character next : Char} {rest : Text}
      (escaped : escapes quote character = true) (closes : Closes depth (some quote) rest) :
      Closes depth (some quote) (character :: next :: rest)
  | doubled {depth : Nat} {quote : Char} {rest : Text} (unescaped : escapes quote quote = false)
      (closes : Closes depth (some quote) rest) :
      Closes depth (some quote) (quote :: quote :: rest)
  | unquote {depth : Nat} {quote next : Char} {rest : Text}
      (unescaped : escapes quote quote = false) (other : next ≠ quote)
      (closes : Closes depth none (next :: rest)) :
      Closes depth (some quote) (quote :: next :: rest)
  | quoted {depth : Nat} {quote character : Char} {rest : Text}
      (unescaped : escapes quote character = false) (other : character ≠ quote)
      (closes : Closes depth (some quote) rest) : Closes depth (some quote) (character :: rest)
  | quote {depth : Nat} {character : Char} {rest : Text} (opens : isQuote character = true)
      (closes : Closes depth (some character) rest) : Closes depth none (character :: rest)
  | deeper {depth : Nat} {rest : Text} (closes : Closes (depth + 1) none rest) :
      Closes depth none ('(' :: rest)
  | shallower {depth : Nat} {rest : Text} (closes : Closes depth none rest) :
      Closes (depth + 1) none (')' :: rest)
  | plain {depth : Nat} {character : Char} {rest : Text} (plain : isQuote character = false)
      (notOpen : character ≠ '(') (notClose : character ≠ ')')
      (closes : Closes depth none rest) : Closes depth none (character :: rest)
  | last : Closes 0 none [')']

/-- The reader finds the closing parenthesis at the end of the text, whatever stands behind. -/
theorem Closes.closingLength?_append {depth : Nat} {quote : Option Char} {text : Text}
    (closes : Closes depth quote text) (rest : Text) :
    closingLength? depth quote (text ++ rest) = some text.length := by
  induction closes with
  | escape escaped _ inductionHypothesis =>
    rw [List.cons_append, List.cons_append, closingLength?_escape _ _ _ _ _ escaped,
      inductionHypothesis]
    rfl
  | doubled unescaped _ inductionHypothesis =>
    rw [List.cons_append, List.cons_append, closingLength?_doubled _ _ _ unescaped,
      inductionHypothesis]
    rfl
  | unquote unescaped other _ inductionHypothesis =>
    rw [List.cons_append, List.cons_append, closingLength?_unquote _ _ _ _ unescaped other,
      ← List.cons_append, inductionHypothesis]
    rfl
  | quoted unescaped other _ inductionHypothesis =>
    rw [List.cons_append, closingLength?_quoted _ _ _ _ unescaped other, inductionHypothesis]
    rfl
  | quote opens _ inductionHypothesis =>
    rw [List.cons_append, closingLength?_quote _ _ _ opens, inductionHypothesis]
    rfl
  | deeper _ inductionHypothesis =>
    rw [List.cons_append, closingLength?_open, inductionHypothesis]
    rfl
  | shallower _ inductionHypothesis =>
    rw [List.cons_append, closingLength?_close, inductionHypothesis]
    rfl
  | plain plain notOpen notClose _ inductionHypothesis =>
    rw [List.cons_append, closingLength?_plain _ _ _ plain notOpen notClose, inductionHypothesis]
    rfl
  | last => rfl

/-- Where the reader finds a closing parenthesis, the text up to there ends with it. -/
theorem exists_closes (depth : Nat) (quote : Option Char) (text : Text) (length : Nat)
    (found : closingLength? depth quote text = some length) :
    ∃ inside rest, text = inside ++ ')' :: rest ∧ inside.length + 1 = length ∧
      Closes depth quote (inside ++ [')']) := by
  fun_induction closingLength? depth quote text generalizing length with
  | case1 | case2 | case4 => cases found
  | case10 rest =>
    cases found
    exact ⟨[], rest, rfl, rfl, .last⟩
  | case3 depth quote character escaped next after inductionHypothesis =>
    obtain ⟨further, read, rfl⟩ := Option.map_eq_some_iff.mp found
    obtain ⟨inside, rest, rfl, rfl, closes⟩ := inductionHypothesis further read
    exact ⟨character :: next :: inside, rest, rfl, rfl, .escape escaped closes⟩
  | case5 depth quote after unescaped inductionHypothesis =>
    obtain ⟨further, read, rfl⟩ := Option.map_eq_some_iff.mp found
    obtain ⟨inside, rest, rfl, rfl, closes⟩ := inductionHypothesis further read
    exact ⟨quote :: quote :: inside, rest, rfl, rfl,
      .doubled (Bool.eq_false_iff.mpr unescaped) closes⟩
  | case6 depth quote next after unescaped other inductionHypothesis =>
    obtain ⟨further, read, rfl⟩ := Option.map_eq_some_iff.mp found
    obtain ⟨inside, rest, equal, rfl, closes⟩ := inductionHypothesis further read
    refine ⟨quote :: inside, rest, congrArg (quote :: ·) equal, rfl, ?_⟩
    cases inside with
    | nil =>
      cases equal
      exact .unquote (Bool.eq_false_iff.mpr unescaped) other closes
    | cons first inside =>
      cases equal
      exact .unquote (Bool.eq_false_iff.mpr unescaped) other closes
  | case7 depth quote character rest unescaped other inductionHypothesis =>
    obtain ⟨further, read, rfl⟩ := Option.map_eq_some_iff.mp found
    obtain ⟨inside, rest, rfl, rfl, closes⟩ := inductionHypothesis further read
    exact ⟨character :: inside, rest, rfl, rfl,
      .quoted (Bool.eq_false_iff.mpr unescaped) other closes⟩
  | case8 depth character rest opens inductionHypothesis =>
    obtain ⟨further, read, rfl⟩ := Option.map_eq_some_iff.mp found
    obtain ⟨inside, rest, rfl, rfl, closes⟩ := inductionHypothesis further read
    exact ⟨character :: inside, rest, rfl, rfl, .quote opens closes⟩
  | case9 depth rest _ inductionHypothesis =>
    obtain ⟨further, read, rfl⟩ := Option.map_eq_some_iff.mp found
    obtain ⟨inside, rest, rfl, rfl, closes⟩ := inductionHypothesis further read
    exact ⟨'(' :: inside, rest, rfl, rfl, .deeper closes⟩
  | case11 rest depth _ _ inductionHypothesis =>
    obtain ⟨further, read, rfl⟩ := Option.map_eq_some_iff.mp found
    obtain ⟨inside, rest, rfl, rfl, closes⟩ := inductionHypothesis further read
    exact ⟨')' :: inside, rest, rfl, rfl, .shallower closes⟩
  | case12 depth character rest plain notOpen notClose inductionHypothesis =>
    obtain ⟨further, read, rfl⟩ := Option.map_eq_some_iff.mp found
    obtain ⟨inside, rest, rfl, rfl, closes⟩ := inductionHypothesis further read
    exact ⟨character :: inside, rest, rfl, rfl,
      .plain (Bool.eq_false_iff.mpr plain) notOpen notClose closes⟩

theorem isBlank_of_isQuote (character : Char) (quote : isQuote character = true) :
    Text.isBlank character = false := by
  simp only [isQuote, Bool.or_eq_true, beq_iff_eq] at quote
  rcases quote with (rfl | rfl) | rfl <;> rfl

theorem escapes_self_of_isQuote (quote : Char) (opens : isQuote quote = true) :
    escapes quote quote = false := by
  simp only [isQuote, Bool.or_eq_true, beq_iff_eq] at opens
  rcases opens with (rfl | rfl) | rfl <;> rfl

/-- A blank may stand in front, in quotes and outside them. -/
theorem Closes.cons_blank {depth : Nat} {quote : Option Char} {rest : Text}
    (closes : Closes depth quote rest) (isMark : ∀ mark ∈ quote, isQuote mark = true)
    (character : Char) (blank : Text.isBlank character = true) :
    Closes depth quote (character :: rest) := by
  have other (mark : Char) (visible : Text.isBlank mark = false) : character ≠ mark :=
    Text.ne_of_isBlank mark character visible blank
  cases quote with
  | some mark =>
    have unescaped : escapes mark character = false := by
      rw [escapes, beq_eq_false_iff_ne.mpr (other '\\' rfl), Bool.false_and]
    exact .quoted unescaped (other mark (isBlank_of_isQuote mark (isMark mark rfl))) closes
  | none =>
    have plain : isQuote character = false := by
      cases quote : isQuote character with
      | false => rfl
      | true => exact absurd rfl (other character (isBlank_of_isQuote character quote))
    exact .plain plain (other '(' rfl) (other ')' rfl) closes

/-- A blank may be left out in quotes. -/
theorem Closes.of_cons_blank {depth : Nat} {mark character : Char} {rest : Text}
    (closes : Closes depth (some mark) (character :: rest)) (isMark : isQuote mark = true)
    (blank : Text.isBlank character = true) : Closes depth (some mark) rest := by
  have visible := isBlank_of_isQuote mark isMark
  cases closes with
  | escape escaped _ =>
    rw [escapes, Bool.and_eq_true, beq_iff_eq] at escaped
    exact absurd escaped.1 (Text.ne_of_isBlank '\\' character rfl blank)
  | doubled _ _ => exact absurd rfl (Text.ne_of_isBlank mark mark visible blank)
  | unquote _ _ _ => exact absurd rfl (Text.ne_of_isBlank mark mark visible blank)
  | quoted _ _ closes => exact closes

/-! ### Balanced texts -/

/-- A text is balanced where the parenthesis that closes it stands directly behind it. -/
def Balanced (inside : Text) : Prop :=
  closingLength? 0 none (inside ++ [')']) = some (inside.length + 1)

instance (inside : Text) : Decidable (Balanced inside) :=
  inferInstanceAs (Decidable (_ = _))

theorem Closes.balanced {inside : Text} (closes : Closes 0 none (inside ++ [')'])) :
    Balanced inside := by
  have found := closes.closingLength?_append []
  rwa [List.append_nil, List.length_append] at found

theorem Balanced.closes {inside : Text} (balanced : Balanced inside) :
    Closes 0 none (inside ++ [')']) := by
  obtain ⟨same, rest, equal, length, closes⟩ := exists_closes 0 none _ _ balanced
  have cut := List.append_inj equal (Nat.succ.inj length).symm
  rwa [← cut.1] at closes

theorem Balanced.closingLength? {inside : Text} (balanced : Balanced inside) (rest : Text) :
    closingLength? 0 none (inside ++ ')' :: rest) = some (inside.length + 1) := by
  have found := balanced.closes.closingLength?_append rest
  rwa [List.append_assoc, List.singleton_append, List.length_append] at found

/-- The parenthesis that closes an expression stands behind a balanced text. -/
theorem exists_balanced (text : Text) (length : Nat)
    (found : closingLength? 0 none text = some length) :
    ∃ inside rest, text = inside ++ ')' :: rest ∧ inside.length + 1 = length ∧
      Balanced inside := by
  obtain ⟨inside, rest, equal, lengths, closes⟩ := exists_closes 0 none text length found
  exact ⟨inside, rest, equal, lengths, closes.balanced⟩

/-! ### Comments -/

/-- Whether a text starts with a comment: a number sign, two hyphens and a blank, or a slash and a
star. -/
def startsComment : Text → Bool
  | [] => false
  | character :: rest =>
    character == '#' || (character == '/' && rest.head? == some '*') ||
      (character == '-' && rest.head? == some '-' && (rest.drop 1).head? == some ' ')

/-- Whether a comment starts outside quotes. The quote is the one whose stretch the text starts
in. -/
def opensComment : (quote : Option Char) → Text → Bool
  | _, [] => false
  | some quote, character :: rest =>
    if escapes quote character then
      match rest with
      | [] => false
      | _ :: after => opensComment (some quote) after
    else if character = quote then
      match rest with
      | [] => false
      | next :: after =>
        if next = quote then opensComment (some quote) after else opensComment none (next :: after)
    else opensComment (some quote) rest
  | none, character :: rest =>
    startsComment (character :: rest) ||
      opensComment (if isQuote character then some character else none) rest

/-- A mark that no comment opener holds does not complete one behind a text. -/
theorem startsComment_append (text rest : Text) (mark : Char)
    (other : mark ∉ ['#', '/', '*', '-', ' ']) :
    startsComment (text ++ mark :: rest) = startsComment text := by
  simp only [List.mem_cons, List.not_mem_nil, or_false, not_or] at other
  obtain ⟨notHash, notSlash, notStar, notHyphen, notBlank⟩ := other
  cases text with
  | nil => simp [startsComment, notHash, notSlash, notHyphen]
  | cons first text =>
    cases text with
    | nil => simp [startsComment, beq_false_of_ne notStar, beq_false_of_ne notHyphen]
    | cons second text =>
      cases text with
      | nil => simp [startsComment, notBlank]
      | cons third text => rfl

section Comments

variable (quote character next : Char) (rest : Text)

theorem opensComment_escape (escaped : escapes quote character = true) :
    opensComment (some quote) (character :: next :: rest) = opensComment (some quote) rest := by
  rw [opensComment.eq_def]
  exact if_pos escaped

theorem opensComment_quoted (unescaped : escapes quote character = false)
    (other : character ≠ quote) :
    opensComment (some quote) (character :: rest) = opensComment (some quote) rest := by
  rw [opensComment.eq_def]
  exact (if_neg (Bool.eq_false_iff.mp unescaped)).trans (if_neg other)

theorem opensComment_quote (opens : isQuote quote = true) :
    opensComment none (quote :: rest) = opensComment (some quote) rest := by
  have starts : startsComment (quote :: rest) = false := by
    simp only [isQuote, Bool.or_eq_true, beq_iff_eq] at opens
    rcases opens with (rfl | rfl) | rfl <;> rfl
  rw [opensComment, starts, Bool.false_or, if_pos opens]

/-- A quote ends the quoted stretch that it opened, or stays in it with the same quote behind it,
which is the same as ending it and opening it again. -/
theorem opensComment_endQuote (opens : isQuote quote = true) :
    opensComment (some quote) (quote :: rest) = opensComment none rest := by
  have unescaped := Bool.eq_false_iff.mp (escapes_self_of_isQuote quote opens)
  rw [opensComment.eq_def]
  refine (if_neg unescaped).trans ((if_pos rfl).trans ?_)
  cases rest with
  | nil => rfl
  | cons next after =>
    by_cases same : next = quote
    · subst same
      exact (if_pos rfl).trans (opensComment_quote next after opens).symm
    · exact if_neg same

theorem opensComment_plain (plain : isQuote character = false) :
    opensComment none (character :: rest) =
      (startsComment (character :: rest) || opensComment none rest) := by
  rw [opensComment, if_neg (Bool.eq_false_iff.mp plain)]

end Comments

end DumpRestore.Nesting
