/-
This file relates blanks, word characters and keywords. A blank belongs to no word, and every form
of a letter does. A keyword that stands at the start of a text therefore ends no later than the
word it starts in, and the keywords of a text are read off word by word, whatever stands between
the words.
-/

import DumpRestore.Text.Keyword
import DumpRestore.Text.Blank

namespace DumpRestore.Text

/-! ### Characters -/

/-- The ranges as a list. The kernel decides membership in a list far faster than in an array. -/
theorem inRanges_eq_any_toList (ranges : Array (Nat × Nat)) (code : Nat) :
    inRanges ranges code =
      ranges.toList.any fun range => range.1 ≤ code && code ≤ range.2 := by
  rw [inRanges, ← Array.any_toList]

/-- The code points of the blanks. -/
def blankCodes : List Nat := [
  0x9, 0xA, 0xB, 0xC, 0xD, 0x1C, 0x1D, 0x1E, 0x1F, 0x20, 0x85, 0xA0, 0x1680, 0x2000, 0x2001, 0x2002,
  0x2003, 0x2004, 0x2005, 0x2006, 0x2007, 0x2008, 0x2009, 0x200A, 0x2028, 0x2029, 0x202F, 0x205F,
  0x3000]

theorem mem_blankCodes (code : Nat) (blank : isBlankCode code = true) : code ∈ blankCodes := by
  simp only [isBlankCode, Bool.or_eq_true, Bool.and_eq_true, decide_eq_true_eq, beq_iff_eq] at blank
  simp only [blankCodes, List.mem_cons, List.not_mem_nil, or_false]
  omega

/-- Stretches of code points between the blanks beyond ASCII. -/
def visibleStretches : List (Nat × Nat) :=
  [(0xA1, 0x167F), (0x1681, 0x1FFF), (0x2060, 0x2FFF), (0x3001, 0x10FFFF)]

/-- No range of letters and numbers reaches over a blank. Whole ranges are compared with the
stretches, since comparing every blank with every range takes the kernel far longer. -/
theorem not_inRanges_of_mem_blankCodes (code : Nat) (member : code ∈ blankCodes) :
    inRanges wordRanges code = false := by
  have within : (wordRanges.toList.all fun range =>
      visibleStretches.any fun stretch =>
        stretch.1 ≤ range.1 && range.2 ≤ stretch.2) = true := by decide +kernel
  have visible : ∀ stretch ∈ visibleStretches, ∀ code ∈ blankCodes,
      ¬ (stretch.1 ≤ code ∧ code ≤ stretch.2) := by decide
  rw [inRanges_eq_any_toList, List.any_eq_false]
  intro range inRanges inRange
  obtain ⟨stretch, inStretches, fits⟩ :=
    List.any_eq_true.mp (List.all_eq_true.mp within range inRanges)
  simp only [Bool.and_eq_true, decide_eq_true_eq] at inRange fits
  exact visible stretch inStretches code member
    ⟨Nat.le_trans fits.1 inRange.1, Nat.le_trans inRange.2 fits.2⟩

theorem isWordChar_of_isBlank (character : Char) (blank : isBlank character = true) :
    isWordChar character = false := by
  have ascii : ∀ code ∈ blankCodes, code < 128 →
      ((Char.ofNat code).isAlphanum || Char.ofNat code == '_') = false := by decide +kernel
  have member := mem_blankCodes character.toNat blank
  rw [isWordChar]
  split
  · rename_i small
    have letter := ascii character.toNat member small
    rwa [Char.ofNat_toNat] at letter
  · exact not_inRanges_of_mem_blankCodes character.toNat member

theorem isBlank_of_isWordChar (character : Char) (inWord : isWordChar character = true) :
    isBlank character = false := by
  cases blank : isBlank character with
  | false => rfl
  | true => rw [isWordChar_of_isBlank character blank] at inWord; cases inWord

theorem ne_of_isBlank (mark character : Char) (visible : isBlank mark = false)
    (blank : isBlank character = true) : character ≠ mark := by
  intro same
  rw [same, visible] at blank
  cases blank

theorem ne_of_isWordChar (mark character : Char) (gap : isWordChar mark = false)
    (inWord : isWordChar character = true) : character ≠ mark := by
  intro same
  rw [same, gap] at inWord
  cases inWord

theorem not_mem_of_isWordChar (mark : Char) (word : Text) (gap : isWordChar mark = false)
    (inWord : ∀ character ∈ word, isWordChar character = true) : mark ∉ word :=
  fun member => ne_of_isWordChar mark mark gap (inWord mark member) rfl

theorem isAlpha_of_isLower_toLower (character : Char) (lower : character.toLower.isLower = true) :
    character.isAlpha = true := by
  unfold Char.toLower at lower
  split at lower
  · rename_i upper
    have isUpper : character.isUpper = true := decide_eq_true upper
    exact Bool.or_eq_true_iff.mpr (Or.inl isUpper)
  · exact Bool.or_eq_true_iff.mpr (Or.inr lower)

theorem toNat_lt_of_isAlpha (character : Char) (alpha : character.isAlpha = true) :
    character.toNat < 128 := by
  unfold Char.isAlpha Char.isUpper Char.isLower at alpha
  simp only [Bool.or_eq_true, Bool.and_eq_true, decide_eq_true_eq, ge_iff_le,
    UInt32.le_iff_toNat_le] at alpha
  have upperEnd : 'Z'.val.toNat = 90 := rfl
  have lowerEnd : 'z'.val.toNat = 122 := rfl
  show character.val.toNat < 128
  omega

/-- A character whose code point lies in one of the ranges of letters and numbers belongs to
words. -/
theorem isWordChar_of_mem_wordRanges (character : Char) (beyond : ¬ character.toNat < 128)
    (listed : (wordRanges.toList.any fun range =>
      range.1 ≤ character.toNat && character.toNat ≤ range.2) = true) :
    isWordChar character = true := by
  rw [isWordChar, if_neg beyond, inRanges_eq_any_toList]
  exact listed

theorem isWordChar_of_isFormOf (letter character : Char) (lower : letter.isLower = true)
    (form : isFormOf letter character = true) : isWordChar character = true := by
  simp only [isFormOf, Bool.or_eq_true, Bool.and_eq_true, beq_iff_eq] at form
  rcases form with ((same | ⟨_, rfl⟩) | ⟨_, rfl | rfl⟩) | ⟨_, kelvin⟩
  · rw [← same] at lower
    have alpha := isAlpha_of_isLower_toLower character lower
    rw [isWordChar, if_pos (toNat_lt_of_isAlpha character alpha), Char.isAlphanum, alpha]
    rfl
  · exact isWordChar_of_mem_wordRanges 'ſ' (by decide) (by decide +kernel)
  · exact isWordChar_of_mem_wordRanges 'ı' (by decide) (by decide +kernel)
  · exact isWordChar_of_mem_wordRanges 'İ' (by decide) (by decide +kernel)
  · refine isWordChar_of_mem_wordRanges character (by rw [kelvin]; decide) ?_
    rw [kelvin]
    decide +kernel

/-! ### Keywords -/

/-- Whether a text goes on with no word: it is empty, or its first character belongs to none. -/
def EndsWord (text : Text) : Prop :=
  ∀ character ∈ text.head?, isWordChar character = false

theorem endsWord_nil : EndsWord [] := by
  intro character member
  cases member

theorem endsWord_cons (character : Char) (rest : Text) (gap : isWordChar character = false) :
    EndsWord (character :: rest) := by
  intro other member
  cases member
  exact gap

/-- A keyword is read within the word it starts in. -/
theorem keyword?_append (keyword word rest : Text) (lower : keyword.all Char.isLower = true)
    (ends : EndsWord rest) :
    keyword? keyword (word ++ rest) = (keyword? keyword word).map (· ++ rest) := by
  induction keyword generalizing word with
  | nil => rfl
  | cons letter letters inductionHypothesis =>
    rw [List.all_cons, Bool.and_eq_true] at lower
    obtain ⟨letterLower, lettersLower⟩ := lower
    cases word with
    | nil =>
      cases rest with
      | nil => rfl
      | cons character rest =>
        have noForm : isFormOf letter character = false := by
          rw [Bool.eq_false_iff]
          intro form
          have inWord := isWordChar_of_isFormOf letter character letterLower form
          rw [ends character rfl] at inWord
          cases inWord
        simp only [List.nil_append, keyword?, noForm, Bool.false_eq_true, if_false,
          Option.map_none]
    | cons character word =>
      simp only [List.cons_append, keyword?]
      split
      · exact inductionHypothesis word lettersLower
      · rfl

/-- The text before the end of a keyword consists of word characters. -/
theorem keyword?_eq_some (keyword text rest : Text) (lower : keyword.all Char.isLower = true)
    (read : keyword? keyword text = some rest) :
    ∃ spelling, text = spelling ++ rest ∧ spelling.length = keyword.length ∧
      ∀ character ∈ spelling, isWordChar character = true := by
  induction keyword generalizing text with
  | nil =>
    cases read
    exact ⟨[], rfl, rfl, fun _ member => by cases member⟩
  | cons letter letters inductionHypothesis =>
    rw [List.all_cons, Bool.and_eq_true] at lower
    obtain ⟨letterLower, lettersLower⟩ := lower
    cases text with
    | nil => cases read
    | cons character text =>
      rw [keyword?] at read
      split at read
      · rename_i form
        obtain ⟨spelling, rfl, length, inWord⟩ := inductionHypothesis text lettersLower read
        refine ⟨character :: spelling, rfl, by rw [List.length_cons, length, List.length_cons], ?_⟩
        intro other member
        rcases List.mem_cons.mp member with rfl | inSpelling
        · exact isWordChar_of_isFormOf letter other letterLower form
        · exact inWord other inSpelling
      · cases read

theorem isKeyword_iff (keyword word : Text) :
    isKeyword keyword word = true ↔ keyword? keyword word = some [] := by
  rw [isKeyword, beq_iff_eq]

theorem keyword?_append_of_isKeyword (keyword word rest : Text)
    (spelled : isKeyword keyword word = true) : keyword? keyword (word ++ rest) = some rest := by
  rw [isKeyword_iff] at spelled
  induction keyword generalizing word with
  | nil =>
    cases spelled
    rfl
  | cons letter letters inductionHypothesis =>
    cases word with
    | nil => cases spelled
    | cons character word =>
      rw [keyword?] at spelled
      split at spelled
      · rename_i form
        rw [List.cons_append, keyword?, if_pos form, inductionHypothesis word spelled]
      · cases spelled

theorem exists_isKeyword (keyword text rest : Text) (read : keyword? keyword text = some rest) :
    ∃ word, text = word ++ rest ∧ isKeyword keyword word = true := by
  induction keyword generalizing text with
  | nil =>
    cases read
    exact ⟨[], rfl, rfl⟩
  | cons letter letters inductionHypothesis =>
    cases text with
    | nil => cases read
    | cons character text =>
      rw [keyword?] at read
      split at read
      · rename_i form
        obtain ⟨word, rfl, spelled⟩ := inductionHypothesis text read
        refine ⟨character :: word, rfl, ?_⟩
        rw [isKeyword_iff] at spelled ⊢
        rw [keyword?, if_pos form, spelled]
      · cases read

/-- A form of a keyword is as long as the keyword and consists of word characters. -/
theorem inWord_of_isKeyword (keyword word : Text) (lower : keyword.all Char.isLower = true)
    (spelled : isKeyword keyword word = true) :
    word.length = keyword.length ∧ ∀ character ∈ word, isWordChar character = true := by
  obtain ⟨spelling, equal, length, inWord⟩ :=
    keyword?_eq_some keyword word [] lower ((isKeyword_iff keyword word).mp spelled)
  rw [List.append_nil] at equal
  rw [equal]
  exact ⟨length, inWord⟩

theorem exists_blanks (text : Text) :
    ∃ blanks, text = blanks ++ skipBlanks text ∧
      ∀ character ∈ blanks, isBlank character = true :=
  ⟨text.takeWhile isBlank, List.takeWhile_append_dropWhile.symm,
    List.all_eq_true.mp List.all_takeWhile⟩

/-! ### Words and blanks -/

/-- A text of words and blanks: no mark stands in it. -/
def OnlyWords (text : Text) : Prop :=
  ∀ character ∈ text, isWordChar character = true ∨ isBlank character = true

theorem onlyWords_of_all (text : Text)
    (all : text.all (fun character => isWordChar character || isBlank character) = true) :
    OnlyWords text :=
  fun character member => Bool.or_eq_true_iff.mp (List.all_eq_true.mp all character member)

theorem OnlyWords.append {first second : Text} (firstWords : OnlyWords first)
    (secondWords : OnlyWords second) : OnlyWords (first ++ second) := by
  intro character member
  rcases List.mem_append.mp member with inFirst | inSecond
  · exact firstWords character inFirst
  · exact secondWords character inSecond

theorem OnlyWords.singleton {text : Text} (words : OnlyWords text) (character : Char)
    (member : character ∈ text) : OnlyWords [character] := by
  intro other inSingleton
  rw [List.mem_singleton.mp inSingleton]
  exact words character member

theorem onlyWords_blank (character : Char) (blank : isBlank character = true) :
    OnlyWords [character] := by
  intro other member
  rw [List.mem_singleton.mp member]
  exact Or.inr blank

theorem OnlyWords.not_mem {text : Text} (words : OnlyWords text) (mark : Char)
    (gap : isWordChar mark = false) (visible : isBlank mark = false) : mark ∉ text := by
  intro member
  rcases words mark member with inWord | blank
  · rw [gap] at inWord
    cases inWord
  · rw [visible] at blank
    cases blank

theorem exists_onlyWords_of_keyword? (keyword text rest : Text)
    (lower : keyword.all Char.isLower = true) (read : keyword? keyword text = some rest) :
    ∃ words, text = words ++ skipBlanks rest ∧ OnlyWords words := by
  obtain ⟨spelling, rfl, _, inWord⟩ := keyword?_eq_some keyword text rest lower read
  obtain ⟨blanks, split, blank⟩ := exists_blanks rest
  have spellingWords : OnlyWords spelling := fun character member =>
    Or.inl (inWord character member)
  have blanksWords : OnlyWords blanks := fun character member =>
    Or.inr (blank character member)
  refine ⟨spelling ++ blanks, ?_, spellingWords.append blanksWords⟩
  rw [List.append_assoc, ← split]

/-! ### Words of a text -/

theorem Run.ofText_cons (character : Char) (rest : Text) :
    Run.ofText (character :: rest) = Run.prepend character (Run.ofText rest) := rfl

/-- A character between words changes nothing about the words of a text. -/
theorem hasWord_cons_of_gap (keyword : Text) (character : Char) (rest : Text)
    (gap : isWordChar character = false) :
    hasWord keyword (character :: rest) = hasWord keyword rest := by
  unfold hasWord
  rw [Run.ofText_cons]
  unfold Run.prepend
  rw [if_neg (by rw [gap]; decide)]
  split
  · rename_i runs
    rw [runs]
    rfl
  · rfl

/-- The runs of a text that starts with no word character do not start with a word. -/
theorem Run.ofText_ne_word_cons (text word : Text) (runs : List Run) (ends : EndsWord text) :
    Run.ofText text ≠ .word word :: runs := by
  cases text with
  | nil => intro equal; cases equal
  | cons character rest =>
    rw [ofText_cons]
    unfold prepend
    rw [if_neg (by rw [ends character rfl]; decide)]
    split <;> intro equal <;> cases equal

/-- A word in front of a text that goes on with no word is the first run. -/
theorem Run.ofText_append (word rest : Text) (nonempty : word ≠ [])
    (inWord : ∀ character ∈ word, isWordChar character = true) (ends : EndsWord rest) :
    Run.ofText (word ++ rest) = .word word :: Run.ofText rest := by
  induction word with
  | nil => exact absurd rfl nonempty
  | cons character word inductionHypothesis =>
    have first := inWord character List.mem_cons_self
    rw [List.cons_append, ofText_cons]
    unfold prepend
    rw [if_pos first]
    cases word with
    | nil =>
      rw [List.nil_append]
      split
      · rename_i runs
        exact absurd runs (ofText_ne_word_cons rest _ _ ends)
      · rfl
    | cons second word =>
      rw [inductionHypothesis (List.cons_ne_nil second word)
        fun other member => inWord other (List.mem_cons_of_mem character member)]

theorem hasWord_append (keyword word rest : Text) (nonempty : word ≠ [])
    (inWord : ∀ character ∈ word, isWordChar character = true) (ends : EndsWord rest) :
    hasWord keyword (word ++ rest) = (isKeyword keyword word || hasWord keyword rest) := by
  unfold hasWord
  rw [Run.ofText_append word rest nonempty inWord ends, List.any_cons]

theorem endsWord_dropWhile (text : Text) : EndsWord (text.dropWhile isWordChar) := by
  intro character member
  have head := List.head?_dropWhile_not isWordChar text
  rw [Option.mem_def.mp member] at head
  exact head

theorem EndsWord.append {first rest : Text} (firstEnds : EndsWord first) (ends : EndsWord rest) :
    EndsWord (first ++ rest) := by
  cases first with
  | nil => exact ends
  | cons character first => exact firstEnds

/-- The words of a text that goes on with no word are those of its parts. -/
theorem hasWord_append_of_endsWord (keyword first rest : Text) (ends : EndsWord rest) :
    hasWord keyword (first ++ rest) = (hasWord keyword first || hasWord keyword rest) := by
  -- The induction is on the length: a whole word is taken off the front at once.
  induction length : first.length using Nat.strongRecOn generalizing first with
  | ind bound inductionHypothesis =>
    subst length
    cases first with
    | nil => rfl
    | cons character first =>
      cases inWord : isWordChar character with
      | false =>
        rw [List.cons_append, hasWord_cons_of_gap keyword character _ inWord,
          hasWord_cons_of_gap keyword character _ inWord]
        exact inductionHypothesis first.length (Nat.lt_succ_self _) first rfl
      | true =>
        have cut := List.takeWhile_append_dropWhile (p := isWordChar) (l := character :: first)
        have nonempty : (character :: first).takeWhile isWordChar ≠ [] := by
          rw [List.takeWhile_cons_of_pos inWord]
          exact List.cons_ne_nil _ _
        have word : ∀ other ∈ (character :: first).takeWhile isWordChar, isWordChar other = true :=
          List.all_eq_true.mp List.all_takeWhile
        have remainingEnds := endsWord_dropWhile (character :: first)
        have shorter : ((character :: first).dropWhile isWordChar).length <
            (character :: first).length := by
          rw [List.dropWhile_cons_of_pos inWord]
          exact Nat.lt_succ_of_le (List.dropWhile_sublist _).length_le
        have further := inductionHypothesis _ shorter _ rfl
        generalize (character :: first).takeWhile isWordChar = taken at cut nonempty word
        generalize (character :: first).dropWhile isWordChar = remaining
          at cut remainingEnds further
        rw [← cut, List.append_assoc,
          hasWord_append keyword taken _ nonempty word (remainingEnds.append ends),
          hasWord_append keyword taken _ nonempty word remainingEnds, further, Bool.or_assoc]

/-- Texts with blanks between them hold a word where one of them does. -/
theorem hasWord_join (keyword : Text) (texts : List Text) :
    hasWord keyword (join " " texts) = texts.any (hasWord keyword) := by
  induction texts with
  | nil => rfl
  | cons text texts inductionHypothesis =>
    cases texts with
    | nil => rw [List.any_cons, List.any_nil, Bool.or_false]; rfl
    | cons second texts =>
      have spread : join " " (text :: second :: texts) =
          text ++ ' ' :: join " " (second :: texts) :=
        List.append_assoc text [' '] _
      have ends : EndsWord (' ' :: join " " (second :: texts)) := endsWord_cons ' ' _ rfl
      rw [spread, hasWord_append_of_endsWord keyword text _ ends,
        hasWord_cons_of_gap keyword ' ' _ rfl, inductionHypothesis, ← List.any_cons]

/-! ### Lists of words -/

/-- A word: word characters, at least one. -/
structure Word where
  text : Text
  nonempty : text ≠ []
  inWord : ∀ character ∈ text, isWordChar character = true

/-- A text as a word. -/
def Word.ofText (text : Text) (isWord : (!text.isEmpty && text.all isWordChar) = true) : Word where
  text
  nonempty := by
    rintro rfl
    cases isWord
  inWord := List.all_eq_true.mp (Bool.and_eq_true_iff.mp isWord).2

/-- Words one after the other, a space in front of each. -/
def spaced (words : List Word) : Text :=
  words.flatMap fun word => ' ' :: word.text

theorem spaced_cons (word : Word) (words : List Word) :
    spaced (word :: words) = ' ' :: word.text ++ spaced words := by
  rw [spaced, List.flatMap_cons]
  rfl

theorem spaced_append (first second : List Word) :
    spaced (first ++ second) = spaced first ++ spaced second :=
  List.flatMap_append

theorem Word.onlyWords_space (word : Word) : OnlyWords (' ' :: word.text) := by
  intro character member
  rcases List.mem_cons.mp member with rfl | inText
  · exact Or.inr rfl
  · exact Or.inl (word.inWord character inText)

theorem onlyWords_spaced (words : List Word) : OnlyWords (spaced words) := by
  induction words with
  | nil =>
    intro character member
    cases member
  | cons word words inductionHypothesis =>
    rw [spaced_cons]
    exact word.onlyWords_space.append inductionHypothesis

theorem endsWord_spaced (words : List Word) : EndsWord (spaced words) := by
  cases words with
  | nil => exact endsWord_nil
  | cons word words =>
    rw [spaced_cons]
    exact endsWord_cons ' ' _ rfl

theorem hasWord_spaced (keyword : Text) (words : List Word) :
    hasWord keyword (spaced words) = words.any fun word => isKeyword keyword word.text := by
  induction words with
  | nil => rfl
  | cons word words inductionHypothesis =>
    rw [spaced_cons, List.cons_append, hasWord_cons_of_gap keyword ' ' _ rfl,
      hasWord_append keyword word.text _ word.nonempty word.inWord (endsWord_spaced words),
      inductionHypothesis, List.any_cons]

end DumpRestore.Text
