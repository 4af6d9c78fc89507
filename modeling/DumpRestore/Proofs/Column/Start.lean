/-
This file says where a head can start, and proves that the head of a text is the leftmost one. A
head starts at a backtick behind which a name, its closing backtick, a data type and the opening of
an expression follow one another. Whether the backtick opens a name makes no difference: the one
that closes a name, or one in a literal, does as well.

A column is therefore the one that its fragment starts with exactly if a head starts at the first
backtick. Where none does, as in the definition of an ordinary column, the search goes on behind
that backtick and finds a head in what follows, be it the text of a default or of a comment. The
backtick is the character 0x60.
-/

import DumpRestore.Proofs.Column.Rendering
import DumpRestore.Proofs.Column.Tiling

namespace DumpRestore

namespace Head

/-! ### Data types -/

/-- Whether a text is a data type: characters other than commas, quotes and parentheses, and lists
in parentheses, which hold no other parentheses. The text may start in such a list. -/
def isTypeText : (inList : Bool) → Text → Bool
  | inList, [] => !inList
  | true, character :: rest => character != '(' && isTypeText (character != ')') rest
  | false, character :: rest => !endsType character && isTypeText (character == '(') rest

theorem EndsAt.of_cons {mayEnd : Bool} {character : Char} {dataType : Text}
    (ends : EndsAt mayEnd (character :: dataType)) :
    EndsAt (!Text.isWordChar character) dataType := by
  cases dataType with
  | nil => exact (Bool.not_eq_true' _).mpr ends
  | cons second dataType => exact ends

/-- A list goes on to its parenthesis, so that the data type does not end in it. -/
theorem EndsAt.of_inList {mayEnd : Bool} {character : Char} {dataType : Text}
    (ends : EndsAt mayEnd (character :: dataType)) (inside : isTypeText true dataType = true) :
    EndsAt false dataType := by
  cases dataType with
  | nil => cases inside
  | cons second dataType => exact ends

/-- What is read as a data type is one. -/
theorem isTypeText_of_splitType? (inList mayEnd : Bool) (text dataType opening after : Text)
    (outside : inList = true → mayEnd = false)
    (read : splitType? inList mayEnd text = some (dataType, opening, after)) :
    isTypeText inList dataType = true := by
  induction text generalizing inList mayEnd dataType with
  | nil => cases read
  | cons character rest inductionHypothesis =>
    have step (nextInList nextMayEnd : Bool) (outside : nextInList = true → nextMayEnd = false)
        (further : (splitType? nextInList nextMayEnd rest).map (fun found =>
          (character :: found.1, found.2)) = some (dataType, opening, after)) :
        ∃ found, dataType = character :: found ∧ isTypeText nextInList found = true := by
      obtain ⟨⟨found, _, _⟩, foundRead, equal⟩ := Option.map_eq_some_iff.mp further
      cases equal
      exact ⟨found, rfl, inductionHypothesis nextInList nextMayEnd found outside foundRead⟩
    unfold splitType? at read
    split at read
    · rename_i opens
      cases read
      cases inList with
      | false => rfl
      | true =>
        rw [outside rfl] at opens
        cases opens
    · split at read
      · rename_i inside
        subst inside
        split at read
        · cases read
        · rename_i notOpen
          split at read
          · rename_i closes
            subst closes
            obtain ⟨found, rfl, typed⟩ := step false true (fun impossible => by cases impossible) read
            exact typed
          · rename_i notClose
            obtain ⟨found, rfl, typed⟩ := step true false (fun _ => rfl) read
            rw [isTypeText, bne_iff_ne.mpr notOpen, bne_iff_ne.mpr notClose, typed]
            rfl
      · rename_i outsideList
        rw [Bool.not_eq_true] at outsideList
        subst outsideList
        split at read
        · rename_i isOpen
          subst isOpen
          obtain ⟨found, rfl, typed⟩ := step true false (fun _ => rfl) read
          exact typed
        · rename_i notOpen
          split at read
          · cases read
          · rename_i continues
            obtain ⟨found, rfl, typed⟩ :=
              step false _ (fun impossible => by cases impossible) read
            rw [isTypeText, Bool.eq_false_iff.mpr continues, beq_eq_false_iff_ne.mpr notOpen, typed]
            rfl

/-- A data type is read, or a shorter one, wherever an expression opens behind it. -/
theorem isSome_splitType? (inList mayEnd : Bool) (dataType rest : Text)
    (typed : isTypeText inList dataType = true) (ends : EndsAt mayEnd dataType)
    (opens : (afterOpening? rest).isSome = true) :
    (splitType? inList mayEnd (dataType ++ rest)).isSome = true := by
  induction dataType generalizing inList mayEnd with
  | nil =>
    cases rest with
    | nil => cases opens
    | cons character rest =>
      obtain ⟨after, found⟩ := Option.isSome_iff_exists.mp opens
      have allowed : mayEnd = true := ends
      rw [List.nil_append]
      unfold splitType?
      rw [allowed, if_pos rfl, found]
      rfl
  | cons character dataType inductionHypothesis =>
    rw [List.cons_append]
    unfold splitType?
    split
    · rfl
    · cases inList with
      | true =>
        rw [isTypeText, Bool.and_eq_true, bne_iff_ne] at typed
        rw [if_pos rfl, if_neg typed.1]
        by_cases closes : character = ')'
        · subst closes
          rw [if_pos rfl, Option.isSome_map]
          exact inductionHypothesis false true typed.2 ends.of_cons
        · have inside : isTypeText true dataType = true := bne_iff_ne.mpr closes ▸ typed.2
          rw [if_neg closes, Option.isSome_map]
          exact inductionHypothesis true false inside (ends.of_inList inside)
      | false =>
        rw [isTypeText, Bool.and_eq_true, Bool.not_eq_true'] at typed
        rw [if_neg Bool.false_ne_true]
        by_cases isOpen : character = '('
        · subst isOpen
          rw [if_pos rfl, Option.isSome_map]
          exact inductionHypothesis true false typed.2 (ends.of_inList typed.2)
        · have outside : isTypeText false dataType = true :=
            beq_eq_false_iff_ne.mpr isOpen ▸ typed.2
          rw [if_neg isOpen, typed.1, if_neg Bool.false_ne_true, Option.isSome_map]
          exact inductionHypothesis false _ outside ends.of_cons

/-! ### Where a head starts -/

/-- A text goes on with a data type and the opening of an expression. -/
def GoesOn (text : Text) : Prop :=
  ∃ dataType rest, text = dataType ++ rest ∧ isTypeText false dataType = true ∧
    EndsAt false dataType ∧ (afterOpening? rest).isSome = true

theorem goesOn_iff (text : Text) : GoesOn text ↔ (splitType? false false text).isSome = true := by
  constructor
  · rintro ⟨dataType, rest, rfl, typed, ends, opens⟩
    exact isSome_splitType? false false dataType rest typed ends opens
  · intro read
    obtain ⟨⟨dataType, opening, after⟩, found⟩ := Option.isSome_iff_exists.mp read
    have typed := isTypeText_of_splitType? false false text _ _ _ (fun _ => rfl) found
    obtain ⟨rfl, opens, ends⟩ := splitType?_eq_some false false text _ _ _ found
    exact ⟨dataType, opening ++ after, List.append_assoc _ _ _, typed, ends, opens ▸ rfl⟩

/-- A data type may be continued to the front by characters that it may have outside lists. -/
theorem GoesOn.append {text : Text} (goesOn : GoesOn text) (front : Text)
    (plain : ∀ character ∈ front, endsType character = false ∧ character ≠ '(') :
    GoesOn (front ++ text) := by
  induction front with
  | nil => exact goesOn
  | cons character front inductionHypothesis =>
    obtain ⟨continues, notOpen⟩ := plain character List.mem_cons_self
    obtain ⟨dataType, rest, equal, typed, ends, opens⟩ := inductionHypothesis fun other member =>
      plain other (List.mem_cons_of_mem character member)
    refine ⟨character :: dataType, rest, congrArg (character :: ·) equal, ?_,
      ends.cons fun impossible => (by cases impossible), opens⟩
    rw [isTypeText, continues, beq_eq_false_iff_ne.mpr notOpen, typed]
    rfl

/-- A head starts with the text: a quoted name of at least one character, behind which the text goes
on with a data type and the opening of an expression. -/
def Starts (text : Text) : Prop :=
  ∃ name behind, text = '\x60' :: (Text.double '\x60' name ++ '\x60' :: behind) ∧ name ≠ [] ∧
    GoesOn behind

theorem starts_iff (character : Char) (rest : Text) :
    Starts (character :: rest) ↔ character = '\x60' ∧
      (Identifier.readInside? (splitType? false false) false rest).isSome = true := by
  constructor
  · rintro ⟨name, behind, equal, nonempty, goesOn⟩
    cases equal
    exact ⟨rfl, Identifier.isSome_readInside? _ name behind false (Or.inr nonempty)
      ((goesOn_iff behind).mp goesOn)⟩
  · rintro ⟨rfl, read⟩
    obtain ⟨⟨inside, result⟩, found⟩ := Option.isSome_iff_exists.mp read
    obtain ⟨behind, rfl, follows⟩ := Identifier.readInside?_eq_some _ false rest inside _ found
    have spelled := Identifier.double_unquote_of_readInside? _ false _ inside _ found
    have nonempty := Identifier.ne_nil_of_readInside? _ _ inside _ found
    refine ⟨Identifier.unquote inside, behind, by rw [spelled], fun empty => nonempty ?_,
      (goesOn_iff behind).mpr (follows ▸ rfl)⟩
    rw [← spelled, empty]
    rfl

theorem not_starts_nil : ¬ Starts [] := by
  rintro ⟨_, _, impossible, _⟩
  cases impossible

/-! ### The leftmost head -/

theorem find?_of_starts (text : Text) (starts : Starts text) :
    ∃ head, find? text = some head ∧ head.before = [] := by
  cases text with
  | nil => exact absurd starts not_starts_nil
  | cons character rest =>
    obtain ⟨rfl, read⟩ := (starts_iff character rest).mp starts
    obtain ⟨found, here⟩ := Option.isSome_iff_exists.mp read
    rw [find?, if_pos rfl, here]
    exact ⟨_, rfl, rfl⟩

/-- Where no head starts with a text, its head is the one that is found behind its first
character. -/
theorem find?_cons_of_not_starts (character : Char) (rest : Text)
    (noStart : ¬ Starts (character :: rest)) :
    find? (character :: rest) = (find? rest).map fun head =>
      { head with before := character :: head.before } := by
  have nothing : (if character = '\x60' then
      Identifier.readInside? (splitType? false false) false rest else none) = none := by
    split
    · rename_i same
      have missing := fun read => noStart ((starts_iff character rest).mpr ⟨same, read⟩)
      exact Option.not_isSome_iff_eq_none.mp missing
    · rfl
  rw [find?, nothing]

/-- The head of a text starts where its name is opened, and no head starts in front of it. -/
theorem starts_of_find? (source : Text) (head : Head) (found : find? source = some head) :
    Starts (source.drop head.before.length) ∧
      ∀ position < head.before.length, ¬ Starts (source.drop position) := by
  induction source generalizing head with
  | nil => cases found
  | cons character rest inductionHypothesis =>
    by_cases starts : Starts (character :: rest)
    · obtain ⟨_, same, empty⟩ := find?_of_starts _ starts
      rw [found] at same
      cases same
      rw [empty]
      exact ⟨starts, fun _ impossible => by cases impossible⟩
    · rw [find?_cons_of_not_starts character rest starts] at found
      obtain ⟨further, foundFurther, rfl⟩ := Option.map_eq_some_iff.mp found
      obtain ⟨here, leftmost⟩ := inductionHypothesis further foundFurther
      refine ⟨here, fun position before => ?_⟩
      cases position with
      | zero => exact starts
      | succ position => exact leftmost position (Nat.lt_of_succ_lt_succ before)

/-- A text in which no head starts may be left out in front of another one. -/
theorem find?_append (front text : Text)
    (noStart : ∀ position < front.length, ¬ Starts ((front ++ text).drop position)) :
    find? (front ++ text) = (find? text).map fun head =>
      { head with before := front ++ head.before } := by
  induction front with
  | nil => exact Option.map_id'.symm
  | cons character front inductionHypothesis =>
    have first : ¬ Starts (character :: (front ++ text)) := noStart 0 (Nat.zero_lt_succ _)
    have further := inductionHypothesis fun position before =>
      noStart (position + 1) (Nat.succ_lt_succ before)
    rw [List.cons_append, find?_cons_of_not_starts _ _ first, further, Option.map_map]
    rfl

/-- No head starts in a text without backticks, whatever follows it. -/
theorem not_starts_of_not_mem (front text : Text) (absent : '\x60' ∉ front) (position : Nat)
    (within : position < front.length) : ¬ Starts ((front ++ text).drop position) := by
  rintro ⟨name, behind, equal, _⟩
  rw [List.drop_append_of_le_length (Nat.le_of_lt within), List.drop_eq_getElem_cons within,
    List.cons_append] at equal
  injection equal with same _
  exact absent (same ▸ List.getElem_mem within)

/-- A head starts at the first backtick of a text exactly if the head of the text does. -/
theorem starts_dropWhile_iff (source : Text) (head : Head) (found : find? source = some head) :
    '\x60' ∉ head.before ↔ Starts (source.dropWhile (· != '\x60')) := by
  obtain ⟨starts, leftmost⟩ := starts_of_find? source head found
  obtain ⟨parts, _, _, _⟩ := fits_of_find? source head found
  constructor
  · intro absent
    have passed : ∀ character ∈ head.before, (character != '\x60') = true := fun character member =>
      bne_iff_ne.mpr fun same => absent (same ▸ member)
    have dropped : source.dropWhile (· != '\x60') = source.drop head.before.length := by
      rw [parts, List.drop_left, List.dropWhile_append_of_pos passed]
      rfl
    rwa [dropped]
  · intro startsFirst member
    let lead := source.takeWhile (· != '\x60')
    have whole : lead ++ source.dropWhile (· != '\x60') = source := List.takeWhile_append_dropWhile
    have dropped : source.drop lead.length = source.dropWhile (· != '\x60') :=
      (congrArg (List.drop lead.length) whole.symm).trans List.drop_left
    -- The head starts no later than at the first backtick, so what stands in front has none.
    have notEarlier : head.before.length ≤ lead.length := Nat.le_of_not_lt fun earlier =>
      leftmost lead.length earlier (dropped ▸ startsFirst)
    have within : head.before <+: lead :=
      List.prefix_of_prefix_length_le ⟨_, parts.symm⟩ ⟨_, whole⟩ notEarlier
    have passed := List.mem_takeWhile_imp (within.subset member)
    exact bne_iff_ne.mp passed rfl

end Head

namespace Column

/-! ### Where a column stands -/

/-- A column stands in a fragment behind a text: its definition follows that text, and its tokens
stand where they say, behind the quoted name. -/
structure StandsBehind (offset : Int) (fragment front : Text) (column : Column) : Prop where
  definition : front ++ column.definition <+: fragment
  tokens : Consecutive
    (offset + front.length + (Identifier.backquote column.name).length) column.tokens
  nonempty : column.tokens ≠ []

/-- A column stands in a fragment behind one text only. -/
theorem StandsBehind.unique {offset : Int} {fragment front other : Text} {column : Column}
    (stands : column.StandsBehind offset fragment front)
    (standsToo : column.StandsBehind offset fragment other) : front = other := by
  obtain ⟨first, rest, equal⟩ := List.exists_cons_of_ne_nil stands.nonempty
  have here := stands.tokens
  have there := standsToo.tokens
  rw [equal] at here there
  have offsets := here.1.symm.trans there.1
  have same : front.length = other.length := by omega
  obtain ⟨after, whole⟩ := stands.definition
  obtain ⟨afterToo, wholeToo⟩ := standsToo.definition
  rw [List.append_assoc] at whole wholeToo
  exact (List.append_inj (whole.trans wholeToo.symm) same).1

/-- A column that is read stands behind the text in front of its head. -/
theorem standsBehind_of_parse? (offset : Int) (fragment : Text) (column : Column)
    (parsed : parse? offset fragment = some column) :
    ∃ head, Head.find? fragment = some head ∧ column.name = Identifier.unquote head.name ∧
      column.StandsBehind offset fragment head.before := by
  obtain ⟨head, expression, tail, after, found, rfl, equal⟩ := standing_of_parse? _ _ _ parsed
  obtain ⟨_, spelled, _, ends⟩ := Head.fits_of_find? fragment head found
  refine ⟨head, found, rfl, ⟨after, equal.symm⟩,
    consecutive_ofParts offset head expression tail spelled, ?_⟩
  have nonempty : head.dataType ≠ [] := by
    intro empty
    rw [empty] at ends
    cases ends
  rw [ofParts, tokensFrom_cons_of_ne_nil _ _ _ _ nonempty]
  exact List.cons_ne_nil _ _

/-! ### The first name of a fragment -/

/-- The first quoted name of a text: no backtick stands in front of it, and no backtick directly
behind it. -/
structure FirstName (text front name behind : Text) : Prop where
  parts : text = front ++ (Identifier.backquote name ++ behind)
  first : '\x60' ∉ front
  ends : behind.head? ≠ some '\x60'

/-- A fragment is read as a column with its first name, and from there on, exactly if that name has
a character and the fragment goes on behind it with a data type and the opening of an expression. -/
theorem FirstName.find?_iff {text front name behind : Text}
    (firstName : FirstName text front name behind) (head : Head)
    (found : Head.find? text = some head) :
    (head.before = front ∧ Identifier.unquote head.name = name) ↔
      name ≠ [] ∧ Head.GoesOn behind := by
  constructor
  · rintro ⟨rfl, rfl⟩
    obtain ⟨parts, spelled, _, _⟩ := Head.fits_of_find? text head found
    obtain ⟨nonempty, follows⟩ := Head.reads_of_find? text head found
    have behindEqual : behind = head.dataType ++ head.opening ++ head.rest := by
      have same := List.append_cancel_left (firstName.parts.symm.trans parts)
      rw [Identifier.backquote_unquote _ spelled] at same
      simpa only [List.append_assoc, List.append_cancel_left_eq] using same
    refine ⟨fun empty => nonempty ?_, (Head.goesOn_iff behind).mpr (behindEqual ▸ follows ▸ rfl)⟩
    rw [← spelled, empty]
    rfl
  · rintro ⟨nonempty, goesOn⟩
    obtain ⟨⟨dataType, opening, after⟩, split⟩ :=
      Option.isSome_iff_exists.mp ((Head.goesOn_iff behind).mp goesOn)
    have quoted := Head.find?_quoted name behind dataType opening after nonempty firstName.ends split
    have parts : text = front ++ '\x60' :: (Text.double '\x60' name ++ '\x60' :: behind) := by
      rw [firstName.parts, Identifier.backquote, List.append_assoc]
      rfl
    rw [parts, Head.find?_append front _ (Head.not_starts_of_not_mem front _ firstName.first),
      quoted] at found
    cases found
    exact ⟨List.append_nil front, Text.undouble_double '\x60' name⟩

/-- The column of a fragment stands behind a text without backticks exactly if a head starts at the
first backtick of the fragment, as it does in a fragment that has no more than two. The column has
the first name of the fragment, and stands behind what stands in front of that name, exactly if the
name has a character and a data type and the opening of an expression follow directly behind it. -/
theorem startsFirst_iff (offset : Int) (fragment : Text) (column : Column)
    (parsed : parse? offset fragment = some column) :
    ∃ front, column.StandsBehind offset fragment front ∧
      ('\x60' ∉ front ↔ Head.Starts (fragment.dropWhile (· != '\x60'))) ∧
      (fragment.count '\x60' ≤ 2 → '\x60' ∉ front) ∧
      ∀ lead name behind, FirstName fragment lead name behind →
        ((front = lead ∧ column.name = name) ↔ name ≠ [] ∧ Head.GoesOn behind) := by
  obtain ⟨head, found, named, stands⟩ := standsBehind_of_parse? offset fragment column parsed
  refine ⟨head.before, stands, Head.starts_dropWhile_iff fragment head found, ?_, ?_⟩
  · intro few member
    obtain ⟨parts, _, _, _⟩ := Head.fits_of_find? fragment head found
    have inFront := List.count_pos_iff.mpr member
    rw [parts] at few
    simp only [List.count_append, List.count_cons_self, List.cons_append] at few
    omega
  · intro lead name behind firstName
    rw [named]
    exact firstName.find?_iff head found

/-- A column behind a comment, whose name holds a backtick. -/
theorem startsFirst_iff_behindComment :
    ∃ column front, parse? 7 "/* key */ `a``b` int AS (1)" = some column ∧
      column.StandsBehind 7 "/* key */ `a``b` int AS (1)" front ∧ '\x60' ∉ front ∧
      front = "/* key */ ".toList ∧ column.name = "a`b".toList := by
  have isRead : (parse? 7 "/* key */ `a``b` int AS (1)").isSome = true := by decide +kernel
  obtain ⟨column, parsed⟩ := Option.isSome_iff_exists.mp isRead
  obtain ⟨front, stands, _, _, named⟩ := startsFirst_iff 7 _ column parsed
  have firstName : FirstName "/* key */ `a``b` int AS (1)" "/* key */ " "a`b" " int AS (1)" :=
    ⟨rfl, by decide, by decide⟩
  have goesOn : Head.GoesOn " int AS (1)" := ⟨" int ", "AS (1)", rfl, rfl, rfl, rfl⟩
  obtain ⟨rfl, name⟩ := (named _ _ _ firstName).mpr ⟨by decide, goesOn⟩
  exact ⟨column, _, parsed, stands, firstName.first, rfl, name⟩

/-- The default of an ordinary column is read as a column, whose name lies between the backtick that
closes the name of the ordinary column and the first one in the default. -/
theorem not_startsFirst_default :
    ∃ column front, parse? 0 "`a` int DEFAULT '`b` AS (1)'" = some column ∧
      column.StandsBehind 0 "`a` int DEFAULT '`b` AS (1)'" front ∧ '\x60' ∈ front ∧
      column.name = " int DEFAULT '".toList := by
  have isRead : (parse? 0 "`a` int DEFAULT '`b` AS (1)'").isSome = true := by decide +kernel
  obtain ⟨column, parsed⟩ := Option.isSome_iff_exists.mp isRead
  obtain ⟨head, found, named, stands⟩ := standsBehind_of_parse? 0 _ column parsed
  have leftmost : Head.find? "`a` int DEFAULT '`b` AS (1)'" = some
      { before := "`a", name := " int DEFAULT '", dataType := "b` ", opening := "AS ("
        rest := "1)'" } := by
    decide +kernel
  rw [leftmost] at found
  cases found
  exact ⟨column, _, parsed, stands, by decide, named.trans rfl⟩

end Column

end DumpRestore
