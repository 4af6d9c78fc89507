/-
This file shows what mapping to upper case keeps of a text. Mapping twice is mapping once, and a
character that is no blank and no comma is never mapped to one. Both are facts about the tables: no
upper case stands in them with an upper case of its own. The tables are too long to compare entry by
entry, so each side is gathered in one set of code points and the two sets are intersected.
-/

import DumpRestore.Proofs.Text.Blanks
import DumpRestore.Text.Case

namespace DumpRestore.Text

/-! ### Sets of code points -/

/-- The set of some code points: the bits of one number, so that two sets are intersected at
once. -/
def codeSet (codes : List Nat) : Nat :=
  codes.foldr (fun code set => 1 <<< code ||| set) 0

theorem testBit_codeSet (codes : List Nat) (code : Nat) :
    (codeSet codes).testBit code = codes.contains code := by
  induction codes with
  | nil => exact Nat.zero_testBit code
  | cons first codes inductionHypothesis =>
    have own : (1 <<< first).testBit code = (code == first) := by
      rw [Nat.one_shiftLeft, Nat.testBit_two_pow, Bool.beq_eq_decide_eq]
      exact decide_eq_decide.mpr eq_comm
    rw [codeSet, List.foldr_cons, Nat.testBit_or, own, List.contains_cons]
    exact congrArg _ inductionHypothesis

theorem not_mem_of_codeSet {first second : List Nat} {code : Nat}
    (apart : codeSet first &&& codeSet second = 0) (member : code ∈ first) : code ∉ second := by
  intro both
  have bit : (codeSet first &&& codeSet second).testBit code = true := by
    rw [Nat.testBit_and, testBit_codeSet, testBit_codeSet, List.contains_iff_mem.mpr member,
      List.contains_iff_mem.mpr both]
    rfl
  rw [apart, Nat.zero_testBit] at bit
  cases bit

/-! ### The tables -/

/-- The code points that a run maps. -/
def CaseRun.codes (run : CaseRun) : List Nat :=
  List.range' run.first ((run.last - run.first) / run.step + 1) run.step

/-- The code points that a run maps to. -/
def CaseRun.images (run : CaseRun) : List Nat :=
  run.codes.map fun code : Nat => ((code : Int) + run.shift).toNat

theorem CaseRun.mem_of_applies {run : CaseRun} {code image : Nat}
    (applies : run.apply? code = some image) : code ∈ run.codes ∧ image ∈ run.images := by
  rw [ CaseRun.apply?] at applies
  split at applies
  · rename_i within
    simp only [Bool.and_eq_true, decide_eq_true_eq, beq_iff_eq] at within
    obtain ⟨⟨above, below⟩, onStep⟩ := within
    have member : code ∈ run.codes := by
      refine List.mem_range'.mpr ⟨(code - run.first) / run.step, ?_, ?_⟩
      · exact Nat.lt_succ_of_le (Nat.div_le_div_right (Nat.sub_le_sub_right below _))
      · rw [Nat.mul_div_cancel' (Nat.dvd_of_mod_eq_zero onStep), Nat.add_sub_cancel' above]
    exact ⟨member, List.mem_map.mpr ⟨code, member, Option.some.inj applies⟩⟩
  · cases applies

/-- The code points of the characters that have an upper case other than themselves. -/
def mappedCodes : List Nat :=
  List.range' 'a'.toNat 26 ++ upperSequences.toList.map Prod.fst ++
    upperRuns.toList.flatMap CaseRun.codes

/-- The code points of the characters that upper cases are made of. -/
def imageCodes : List Nat :=
  List.range' 'A'.toNat 26 ++ upperSequences.toList.flatMap Prod.snd ++
    upperRuns.toList.flatMap CaseRun.images

theorem isValidChar_of_mem_imageCodes : ∀ code ∈ imageCodes, code.isValidChar := by
  decide +kernel

theorem codeSet_imageCodes :
    codeSet imageCodes &&& codeSet (','.toNat :: blankCodes ++ mappedCodes) = 0 := by
  decide +kernel

/-! ### The upper case of one character -/

theorem toUpper_of_not_lower : ∀ code < 128, code ∉ List.range' 'a'.toNat 26 →
    (Char.ofNat code).toUpper = Char.ofNat code := by
  decide +kernel

theorem toUpper_of_lower : ∀ code ∈ List.range' 'a'.toNat 26,
    code - 32 ∈ List.range' 'A'.toNat 26 ∧
      (Char.ofNat code).toUpper = Char.ofNat (code - 32) := by
  decide +kernel

theorem upperSequences_nonempty : ∀ entry ∈ upperSequences.toList, entry.2 ≠ [] := by
  decide +kernel

/-- A character outside the tables is its own upper case. -/
theorem upperChar_of_not_mem (character : Char) (unmapped : character.toNat ∉ mappedCodes) :
    upperChar character = [character] := by
  simp only [mappedCodes, List.mem_append, not_or] at unmapped
  obtain ⟨⟨noLetter, noSequence⟩, noRun⟩ := unmapped
  rw [upperChar]
  split
  · rename_i small
    have same := toUpper_of_not_lower character.toNat small noLetter
    rw [Char.ofNat_toNat] at same
    rw [same]
  · split
    · rename_i key codes found
      have member := Array.mem_toList_iff.mpr (Array.mem_of_find?_eq_some found)
      have isKey := Array.find?_some found
      exact absurd (List.mem_map.mpr ⟨_, member, eq_of_beq isKey⟩) noSequence
    · split
      · rename_i image found
        obtain ⟨run, member, applies⟩ := Array.exists_of_findSome?_eq_some found
        exact absurd (List.mem_flatMap.mpr ⟨run, Array.mem_toList_iff.mpr member,
          (CaseRun.mem_of_applies applies).1⟩) noRun
      · rfl

/-- A character is its own upper case, or its upper case is made of images. -/
theorem upperChar_cases (character : Char) :
    upperChar character = [character] ∨
      ∃ codes, codes ≠ [] ∧ (∀ code ∈ codes, code ∈ imageCodes) ∧
        upperChar character = codes.map Char.ofNat := by
  by_cases unmapped : character.toNat ∉ mappedCodes
  · exact Or.inl (upperChar_of_not_mem character unmapped)
  rw [upperChar]
  split
  · by_cases lower : character.toNat ∈ List.range' 'a'.toNat 26
    · obtain ⟨member, upper⟩ := toUpper_of_lower character.toNat lower
      rw [Char.ofNat_toNat] at upper
      refine Or.inr ⟨[character.toNat - 32], List.cons_ne_nil _ _, ?_, by rw [upper]; rfl⟩
      exact List.forall_mem_singleton.mpr (List.mem_append_left _ (List.mem_append_left _ member))
    · rename_i small
      have same := toUpper_of_not_lower character.toNat small lower
      rw [Char.ofNat_toNat] at same
      exact Or.inl (by rw [same])
  · split
    · rename_i key codes found
      have member := Array.mem_toList_iff.mpr (Array.mem_of_find?_eq_some found)
      refine Or.inr ⟨codes, upperSequences_nonempty _ member, fun code inCodes => ?_, rfl⟩
      exact List.mem_append_left _ (List.mem_append_right _
        (List.mem_flatMap.mpr ⟨_, member, inCodes⟩))
    · split
      · rename_i image found
        obtain ⟨run, member, applies⟩ := Array.exists_of_findSome?_eq_some found
        refine Or.inr ⟨[image], List.cons_ne_nil _ _, ?_, rfl⟩
        exact List.forall_mem_singleton.mpr (List.mem_append_right _ (List.mem_flatMap.mpr
          ⟨run, Array.mem_toList_iff.mpr member, (CaseRun.mem_of_applies applies).2⟩))
      · exact Or.inl rfl

/-- A character that upper case may bring into a text: it is its own upper case, no blank and no
comma. -/
structure IsCapital (character : Char) : Prop where
  fixed : upperChar character = [character]
  visible : isBlank character = false
  noComma : character ≠ ','

theorem isCapital_of_mem_imageCodes (code : Nat) (member : code ∈ imageCodes) :
    IsCapital (Char.ofNat code) := by
  have outside := not_mem_of_codeSet codeSet_imageCodes member
  have toNat : (Char.ofNat code).toNat = code := by
    rw [Char.ofNat, dif_pos (isValidChar_of_mem_imageCodes code member)]
    rfl
  simp only [List.cons_append, List.mem_cons, List.mem_append, not_or] at outside
  obtain ⟨noComma, notBlank, unmapped⟩ := outside
  constructor
  · exact upperChar_of_not_mem _ (toNat.symm ▸ unmapped)
  · rw [isBlank, toNat]
    exact Bool.eq_false_iff.mpr fun blank => notBlank (mem_blankCodes code blank)
  · exact fun same => noComma (toNat ▸ congrArg Char.toNat same)

theorem fixed_or_isCapital {character image : Char} (member : image ∈ upperChar character) :
    (image = character ∧ upperChar character = [character]) ∨ IsCapital image := by
  rcases upperChar_cases character with same | ⟨codes, _, images, equal⟩
  · rw [same] at member
    exact Or.inl ⟨List.mem_singleton.mp member, same⟩
  · rw [equal] at member
    obtain ⟨code, inCodes, rfl⟩ := List.mem_map.mp member
    exact Or.inr (isCapital_of_mem_imageCodes code (images code inCodes))

theorem upperChar_ne_nil (character : Char) : upperChar character ≠ [] := by
  rcases upperChar_cases character with same | ⟨codes, nonempty, _, equal⟩
  · rw [same]
    exact List.cons_ne_nil _ _
  · rw [equal]
    exact fun empty => nonempty (List.map_eq_nil_iff.mp empty)

/-- Upper case is its own upper case. -/
theorem upperChar_of_mem {character image : Char} (member : image ∈ upperChar character) :
    upperChar image = [image] := by
  rcases fixed_or_isCapital member with ⟨rfl, fixed⟩ | capital
  · exact fixed
  · exact capital.fixed

/-- A blank is brought into a text by nothing but itself. -/
theorem isBlank_of_mem_upperChar {character image : Char} (visible : isBlank character = false)
    (member : image ∈ upperChar character) : isBlank image = false := by
  rcases fixed_or_isCapital member with ⟨rfl, _⟩ | capital
  · exact visible
  · exact capital.visible

/-! ### The upper case of a text -/

theorem upper_append (first second : Text) :
    upper (first ++ second) = upper first ++ upper second :=
  List.flatMap_append

theorem upper_cons (character : Char) (rest : Text) :
    upper (character :: rest) = upperChar character ++ upper rest :=
  List.flatMap_cons

theorem upper_of_fixed (text : Text)
    (fixed : ∀ character ∈ text, upperChar character = [character]) : upper text = text := by
  induction text with
  | nil => rfl
  | cons character rest inductionHypothesis =>
    obtain ⟨first, others⟩ := List.forall_mem_cons.mp fixed
    rw [upper_cons, first, inductionHypothesis others]
    rfl

theorem upper_upper (text : Text) : upper (upper text) = upper text := by
  refine upper_of_fixed (upper text) fun image member => ?_
  obtain ⟨character, _, inUpper⟩ := List.mem_flatMap.mp member
  exact upperChar_of_mem inUpper

theorem comma_not_mem_upper {text : Text} (absent : ',' ∉ text) : ',' ∉ upper text := by
  intro member
  obtain ⟨character, inText, inUpper⟩ := List.mem_flatMap.mp member
  rcases fixed_or_isCapital inUpper with ⟨rfl, _⟩ | capital
  · exact absent inText
  · exact capital.noComma rfl

theorem upper_ne_nil {text : Text} (nonempty : text ≠ []) : upper text ≠ [] := by
  obtain ⟨character, rest, rfl⟩ := List.exists_cons_of_ne_nil nonempty
  rw [upper_cons]
  exact fun empty => upperChar_ne_nil character (List.append_eq_nil_iff.mp empty).1

/-- The upper case of a text without blanks at its ends has none there either. -/
theorem trimmed_upper {text : Text} (trimmed : Trimmed text) : Trimmed (upper text) := by
  by_cases empty : text = []
  · rw [empty]
    exact trimmed_nil
  constructor
  · obtain ⟨first, rest, rfl, visible⟩ := trimmed.exists_cons empty
    intro image member
    rw [upper_cons, List.head?_append,
      Option.or_of_isSome (List.isSome_head?.mpr (upperChar_ne_nil first))] at member
    exact isBlank_of_mem_upperChar visible (List.mem_of_mem_head? member)
  · obtain ⟨init, last, rfl, visible⟩ := trimmed.exists_concat empty
    have ofLast : upper [last] = upperChar last := List.append_nil _
    intro image member
    rw [upper_append, ofLast, List.getLast?_append,
      Option.or_of_isSome (List.getLast?_isSome.mpr (upperChar_ne_nil last))] at member
    exact isBlank_of_mem_upperChar visible (List.mem_of_getLast? member)

end DumpRestore.Text
