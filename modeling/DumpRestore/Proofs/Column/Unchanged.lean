/-
This file says which definitions rebuilding leaves as they are, blanks apart, on a server that
accepts NOT NULL. VIRTUAL and PERSISTENT are both longer than STORED, so that renaming them takes
visible characters away, and a STORED that is put in brings some; a column whose storage is to be
changed therefore never keeps its definition. All other columns keep theirs exactly if it is spaced
the way it would be rebuilt: with a blank between the name and every part, and with single spaces
in the name, which is not rebuilt.
-/

import DumpRestore.Proofs.Column.Rebuilt
import DumpRestore.Proofs.Column.Tiling
import DumpRestore.Proofs.Text.Spacing

namespace DumpRestore

open Text (Run)

namespace Column

/-! ### Renamed words -/

section Renamed

variable (persistentToo : Bool)

/-- Whether a run is a word that STORED takes the place of. -/
def isRenamed (run : Run) : Bool :=
  Run.isKeyword "virtual" run || (persistentToo && Run.isKeyword "persistent" run)

theorem renameStorage_of_isRenamed (run : Run) (renamed : isRenamed persistentToo run = true) :
    renameStorage persistentToo run = .word "STORED" := by
  cases run with
  | gap text => simp [isRenamed, Run.isKeyword] at renamed
  | word text => exact if_pos renamed

theorem renameStorage_of_not_isRenamed (run : Run) (kept : ¬ isRenamed persistentToo run = true) :
    renameStorage persistentToo run = run := by
  cases run with
  | gap text => rfl
  | word text => exact if_neg kept

/-- The words that STORED takes the place of are longer than it. -/
theorem visibleCount_isRenamed (run : Run) (renamed : isRenamed persistentToo run = true) :
    Text.visibleCount "STORED" < Text.visibleCount run.text := by
  have longer (keyword text : Text) (lower : keyword.all Char.isLower = true)
      (said : Text.isKeyword keyword text = true) : Text.visibleCount text = keyword.length := by
    obtain ⟨length, inWord⟩ := Text.inWord_of_isKeyword keyword text lower said
    rw [← length]
    exact Text.visibleCount_of_visible text fun character member =>
      Text.isBlank_of_isWordChar character (inWord character member)
  have stored : Text.visibleCount "STORED" = 6 := by decide
  cases run with
  | gap text => simp [isRenamed, Run.isKeyword] at renamed
  | word text =>
    rw [stored]
    show 6 < Text.visibleCount text
    rw [isRenamed, Bool.or_eq_true, Bool.and_eq_true] at renamed
    rcases renamed with virtual | ⟨_, persistent⟩
    · rw [longer "virtual" text rfl virtual]
      decide
    · rw [longer "persistent" text rfl persistent]
      decide

/-- Every renamed word costs a text at least one visible character. -/
theorem visibleCount_map_renameStorage (runs : List Run) :
    Text.visibleCount (Run.toText (runs.map (renameStorage persistentToo))) +
      runs.countP (isRenamed persistentToo) ≤ Text.visibleCount (Run.toText runs) := by
  induction runs with
  | nil => exact Nat.le_refl _
  | cons run runs inductionHypothesis =>
    rw [List.map_cons, Run.toText_cons, Run.toText_cons, Text.visibleCount_append,
      Text.visibleCount_append]
    by_cases renamed : isRenamed persistentToo run = true
    · have shorter := visibleCount_isRenamed persistentToo run renamed
      rw [renameStorage_of_isRenamed persistentToo run renamed, List.countP_cons_of_pos renamed]
      show Text.visibleCount "STORED" + _ + _ ≤ _
      omega
    · rw [renameStorage_of_not_isRenamed persistentToo run renamed,
        List.countP_cons_of_neg renamed]
      omega

end Renamed

/-! ### Renaming in attributes -/

section Attributes

variable (isVirtual : Bool) (support : ColumnSupport)

/-- Whether attributes say a word that STORED takes the place of. -/
def renames (attributes : Text) : Bool :=
  Attributes.say "virtual" attributes ||
    (!isVirtual && !support.persistentSupported && Attributes.say "persistent" attributes)

theorem renames_words (words : Text) (onlyWords : Text.OnlyWords words) :
    renames isVirtual support words =
      (Run.ofText words).any (isRenamed (!isVirtual && !support.persistentSupported)) := by
  rw [renames, Attributes.say_words _ words onlyWords, Attributes.say_words _ words onlyWords,
    hasWord_eq_any, hasWord_eq_any]
  generalize (!isVirtual && !support.persistentSupported) = persistentToo
  induction Run.ofText words with
  | nil => simp
  | cons run runs inductionHypothesis =>
    rw [List.any_cons, List.any_cons, List.any_cons, ← inductionHypothesis, isRenamed]
    cases persistentToo with
    | false => simp
    | true =>
      simp only [Bool.true_and]
      ac_rfl

theorem renames_group (text inside rest : Text) (onlyWords : Text.OnlyWords text)
    (closes : Attributes.Closes .direct inside) :
    renames isVirtual support (text ++ '(' :: (inside ++ rest)) =
      (renames isVirtual support text || renames isVirtual support rest) := by
  unfold renames
  rw [Attributes.say_group _ text inside rest onlyWords closes,
    Attributes.say_group _ text inside rest onlyWords closes,
    Attributes.say_words _ text onlyWords, Attributes.say_words _ text onlyWords]
  cases !isVirtual && !support.persistentSupported with
  | false => simp
  | true =>
    simp only [Bool.true_and]
    ac_rfl

/-- Attributes that say none of the words are kept. -/
theorem storedAttributes_of_not_renames (accepts : support.notNullSupported = true)
    (attributes : Text) (whole : Attributes.Whole attributes)
    (keeps : renames isVirtual support attributes = false) :
    storedAttributes isVirtual support attributes = attributes := by
  rw [renames, Bool.or_eq_false_iff] at keeps
  refine storedAttributes_eq_self isVirtual support attributes whole keeps.1 (fun refuses => ?_)
    fun actual unsupported => ?_
  · rw [accepts] at refuses
    cases refuses
  · have unsaid := keeps.2
    rwa [actual, unsupported, Bool.not_false, Bool.and_self, Bool.true_and] at unsaid

variable (accepts : support.notNullSupported = true)

include accepts

theorem keptRuns_of_accepts (words : Text) : keptRuns support words = Run.ofText words := by
  rw [keptRuns, if_pos accepts]

/-- Attributes lose visible characters by rewriting where they say one of the words, and gain none
otherwise. -/
theorem visibleCount_storedAttributes (attributes : Text) (whole : Attributes.Whole attributes) :
    Text.visibleCount (storedAttributes isVirtual support attributes) +
        (if renames isVirtual support attributes then 1 else 0) ≤
      Text.visibleCount attributes := by
  have counted (words : Text) (onlyWords : Text.OnlyWords words) :
      Text.visibleCount (storedWords isVirtual support words) +
          (if renames isVirtual support words then 1 else 0) ≤ Text.visibleCount words := by
    have shorter := visibleCount_map_renameStorage
      (!isVirtual && !support.persistentSupported) (Run.ofText words)
    rw [Run.toText_ofText] at shorter
    rw [storedWords_eq, keptRuns_of_accepts support accepts]
    refine Nat.le_trans (Nat.add_le_add_left ?_ _) shorter
    split
    · rename_i renamed
      rw [renames_words isVirtual support words onlyWords] at renamed
      exact List.countP_pos_iff.mpr (List.any_eq_true.mp renamed)
    · exact Nat.zero_le _
  induction whole with
  | words words onlyWords =>
    rw [storedAttributes, Attributes.mapBare_words _ words onlyWords]
    exact counted words onlyWords
  | group text inside rest onlyWords closes whole inductionHypothesis =>
    have first := counted text onlyWords
    rw [storedAttributes] at inductionHypothesis
    rw [storedAttributes, Attributes.mapBare_group _ text inside rest onlyWords closes,
      renames_group isVirtual support text inside rest onlyWords closes,
      ← List.singleton_append, ← List.singleton_append (l := inside ++ rest)]
    simp only [Text.visibleCount_append]
    generalize renames isVirtual support text = here at first ⊢
    generalize renames isVirtual support rest = behind at inductionHypothesis ⊢
    cases here <;> cases behind <;> simp at first inductionHypothesis ⊢ <;> omega

/-- Attributes say STORED after rewriting where they said one of the words. -/
theorem declareStorage_of_renames (attributes : Text) (whole : Attributes.Whole attributes)
    (renamed : renames isVirtual support attributes = true) :
    Attributes.declareStorage (storedAttributes isVirtual support attributes) = true := by
  have becomes (keyword words : Text)
      (gives : ∀ run, Run.isKeyword keyword run = true →
        isRenamed (!isVirtual && !support.persistentSupported) run = true)
      (said : Text.hasWord keyword words = true) :
      Text.hasWord "stored" (storedWords isVirtual support words) = true := by
    rw [hasWord_eq_any, List.any_eq_true] at said
    obtain ⟨run, member, isKeyword⟩ := said
    rw [hasWord_storedWords, keptRuns_of_accepts support accepts, List.any_map, List.any_eq_true]
    refine ⟨run, member, ?_⟩
    rw [Function.comp_apply, renameStorage_of_isRenamed _ run (gives run isKeyword)]
    decide
  have stored : Attributes.say "stored" (storedAttributes isVirtual support attributes) = true := by
    have keeps := onlyWords_storedWords isVirtual support
    rw [renames, Bool.or_eq_true, Bool.and_eq_true] at renamed
    rcases renamed with virtual | ⟨persistentToo, persistent⟩
    · refine Attributes.say_mapBare "virtual" "stored" _ attributes whole keeps (fun words => ?_)
        virtual
      exact becomes "virtual" words fun run said => by rw [isRenamed, said, Bool.true_or]
    · refine Attributes.say_mapBare "persistent" "stored" _ attributes whole keeps (fun words => ?_)
        persistent
      exact becomes "persistent" words fun run said => by
        rw [isRenamed, persistentToo, said, Bool.and_self, Bool.or_true]
  exact Bool.or_eq_true_iff.mpr (Or.inl stored)

/-- Where something is renamed, no STORED is put in besides. -/
theorem storedMark_of_renames (first second : Text) (firstWhole : Attributes.Whole first)
    (secondWhole : Attributes.Whole second)
    (renamed : (renames isVirtual support first || renames isVirtual support second) = true) :
    storedMark (storedAttributes isVirtual support first)
      (storedAttributes isVirtual support second) = [] := by
  refine if_pos (Bool.or_eq_true_iff.mpr ((Bool.or_eq_true_iff.mp renamed).imp ?_ ?_))
  · exact declareStorage_of_renames isVirtual support accepts first firstWhole
  · exact declareStorage_of_renames isVirtual support accepts second secondWhole

end Attributes

/-! ### Columns to be stored -/

/-- A column whose storage is to be changed: it is virtual, or its attributes say PERSISTENT outside
their groups and the server does not know the word. -/
def ToStore (persistentSupported : Bool) (column : Column) : Prop :=
  column.isVirtual = true ∨ (persistentSupported = false ∧
    Text.hasWord "persistent" (Attributes.bareWords (attributeText column.tokens)) = true)

instance (persistentSupported : Bool) : DecidablePred (ToStore persistentSupported) :=
  fun _ => inferInstanceAs (Decidable (_ ∨ _))

/-- A column that is spaced the way it would be rebuilt: no blanks in its name but single spaces,
and a blank at the border of any two of its parts, the name being the first. -/
structure WellSpaced (column : Column) : Prop where
  name : Text.SingleSpaced column.name
  parted : (Identifier.backquote column.name :: column.tokens.map Token.text).IsChain Text.Parted

instance : DecidablePred WellSpaced := fun column =>
  decidable_of_iff
    (Text.squeeze column.name = column.name ∧
      (Identifier.backquote column.name :: column.tokens.map Token.text).IsChain Text.Parted)
    ⟨fun ⟨name, parted⟩ => ⟨(Text.squeeze_eq_self_iff _).mp name, parted⟩,
      fun ⟨name, parted⟩ => ⟨(Text.squeeze_eq_self_iff _).mpr name, parted⟩⟩

theorem trimmed_backquote (name : Text) : Text.Trimmed (Identifier.backquote name) := by
  constructor
  · intro character member
    cases member
    rfl
  · intro character member
    rw [Identifier.backquote, List.getLast?_concat] at member
    cases member
    rfl

theorem singleSpaced_backquote (name : Text) :
    Text.SingleSpaced (Identifier.backquote name) ↔ Text.SingleSpaced name := by
  have squeezed : Text.squeeze (Identifier.backquote name) =
      Identifier.backquote (Text.squeeze name) := by
    rw [Identifier.backquote, List.cons_append, Text.squeeze_cons_visible '\x60' _ rfl,
      Text.squeeze_append_cons _ [] '\x60' rfl, Text.squeeze_double '\x60' name rfl]
    rfl
  rw [← Text.squeeze_eq_self_iff, ← Text.squeeze_eq_self_iff, squeezed]
  refine ⟨fun same => ?_, congrArg Identifier.backquote⟩
  have inside := List.append_cancel_right (List.tail_eq_of_cons_eq same)
  rw [← Text.undouble_double '\x60' (Text.squeeze name), inside, Text.undouble_double]

section Parts

variable (offset : Int) (head : Head) (expression : Text) (tail : Tail) (support : ColumnSupport)
  (formed : tail.Formed)

include formed

/-- A column is to be stored where renaming concerns its attributes or nothing says yet that its
values are stored. -/
theorem toStore_ofParts (isVirtual : Bool)
    (actual : (ofParts offset head expression tail).isVirtual = isVirtual) :
    ToStore support.persistentSupported (ofParts offset head expression tail) ↔
      (renames isVirtual support tail.attributes || renames isVirtual support tail.trailing ||
        !(Attributes.declareStorage tail.attributes ||
          Attributes.declareStorage tail.trailing)) = true := by
  have persistent := say_attributeText offset head expression tail "persistent" formed.whole.1
    formed.whole.2
  have read := isVirtual_ofParts offset head expression tail formed.whole.1 formed.whole.2
  rw [actual] at read
  rw [ToStore, actual, ← Attributes.say, persistent]
  unfold renames
  cases isVirtual with
  | true =>
    refine iff_of_true (Or.inl rfl) ?_
    simpa only [Bool.not_true, Bool.false_and, Bool.or_false] using read.symm
  | false =>
    obtain ⟨⟨first, second⟩, declared⟩ := by
      simpa only [Bool.or_eq_false_iff, Bool.not_eq_false'] using read.symm
    rw [first, second, declared]
    simp only [Bool.false_or, Bool.not_false, Bool.true_and, Bool.not_true, Bool.or_false,
      ← Bool.and_or_distrib_left, Bool.and_eq_true, Bool.not_eq_true', Bool.false_eq_true, false_or]

variable (nonblank : Text.collapse expression ≠ []) (accepts : support.notNullSupported = true)

include nonblank accepts

/-- The words of a column are kept that is not to be stored. -/
theorem storedDefinition_of_not_toStore
    (keeps : ¬ ToStore support.persistentSupported (ofParts offset head expression tail)) :
    (ofParts offset head expression tail).storedDefinition support =
      Identifier.backquote (ofParts offset head expression tail).name ++
        Text.spread (((ofParts offset head expression tail).tokens.map Token.text).flatMap
          Text.words) := by
  generalize actual : (ofParts offset head expression tail).isVirtual = isVirtual
  rw [toStore_ofParts offset head expression tail support formed isVirtual actual,
    Bool.not_eq_true, Bool.or_eq_false_iff, Bool.or_eq_false_iff, Bool.not_eq_false'] at keeps
  obtain ⟨⟨here, behind⟩, declared⟩ := keeps
  have noMark : storedMark tail.attributes tail.trailing = [] := if_pos declared
  rw [storedDefinition_ofParts offset head expression tail support isVirtual actual nonblank
      formed.whole.1 formed.whole.2,
    storedAttributes_of_not_renames isVirtual support accepts _ formed.whole.1 here,
    storedAttributes_of_not_renames isVirtual support accepts _ formed.whole.2 behind, noMark,
    List.flatMap_map]
  simp only [ofParts, flatMap_words_tokensFrom, List.flatMap_cons, List.flatMap_nil,
    List.append_nil, List.append_assoc]

/-- A column that is to be stored does not keep its definition: the numbers of visible characters
differ. -/
theorem storedDefinition_ne_of_toStore
    (spelled : Text.double '\x60' (Identifier.unquote head.name) = head.name)
    (toStore : ToStore support.persistentSupported (ofParts offset head expression tail)) :
    (ofParts offset head expression tail).storedDefinition support ≠
      Text.collapse (ofParts offset head expression tail).definition := by
  generalize actual : (ofParts offset head expression tail).isVirtual = isVirtual
  intro same
  have counted := congrArg Text.visibleCount same
  have name := Identifier.backquote_unquote head.name spelled
  rw [storedDefinition_ofParts offset head expression tail support isVirtual actual nonblank
    formed.whole.1 formed.whole.2, Text.visibleCount_collapse] at counted
  simp only [ofParts, Text.spread_append, Text.visibleCount_append, Text.visibleCount_spread_words,
    name] at counted
  have first := visibleCount_storedAttributes isVirtual support accepts _ formed.whole.1
  have second := visibleCount_storedAttributes isVirtual support accepts _ formed.whole.2
  rw [toStore_ofParts offset head expression tail support formed isVirtual actual] at toStore
  by_cases renamed : (renames isVirtual support tail.attributes ||
      renames isVirtual support tail.trailing) = true
  · have nothing : Text.visibleCount (Text.spread []) = 0 := rfl
    rw [storedMark_of_renames isVirtual support accepts _ _ formed.whole.1 formed.whole.2 renamed,
      nothing] at counted
    rcases Bool.or_eq_true_iff.mp renamed with here | behind
    · rw [here, if_pos rfl] at first
      omega
    · rw [behind, if_pos rfl] at second
      omega
  · rw [Bool.not_eq_true, Bool.or_eq_false_iff] at renamed
    rw [renamed.1, renamed.2, Bool.or_self, Bool.false_or, Bool.not_eq_true'] at toStore
    have mark : storedMark tail.attributes tail.trailing = [("STORED" : Text)] :=
      if_neg (Bool.eq_false_iff.mp toStore)
    have added : Text.visibleCount (Text.spread [("STORED" : Text)]) = 6 := by decide
    rw [storedAttributes_of_not_renames isVirtual support accepts _ formed.whole.1 renamed.1,
      storedAttributes_of_not_renames isVirtual support accepts _ formed.whole.2 renamed.2, mark,
      added] at counted
    omega

end Parts

/-- Rebuilding keeps the definition of a column, blanks apart, exactly if the column is not to be
stored and is spaced the way it would be rebuilt. -/
theorem storedDefinition_eq_collapse_iff (offset : Int) (fragment : Text) (column : Column)
    (support : ColumnSupport) (parsed : parse? offset fragment = some column)
    (accepts : support.notNullSupported = true) :
    column.storedDefinition support = Text.collapse column.definition ↔
      ¬ column.ToStore support.persistentSupported ∧ column.WellSpaced := by
  obtain ⟨head, expression, tail, found, rfl, nonblank, formed⟩ :=
    exists_formed_of_parse? offset fragment column parsed
  have spelled := (Head.fits_of_find? fragment head found).spelled
  by_cases toStore : ToStore support.persistentSupported (ofParts offset head expression tail)
  · refine iff_of_false ?_ fun both => both.1 toStore
    exact storedDefinition_ne_of_toStore offset head expression tail support formed nonblank
      accepts spelled toStore
  · have kept := storedDefinition_of_not_toStore offset head expression tail support formed
      nonblank accepts toStore
    have spelledOut : (ofParts offset head expression tail).definition =
        Identifier.backquote (ofParts offset head expression tail).name ++
          ((ofParts offset head expression tail).tokens.map Token.text).flatten :=
      definition_ofParts offset head expression tail spelled
    have nonempty : ∀ text ∈ (ofParts offset head expression tail).tokens.map Token.text,
        text ≠ [] := by
      intro text member
      obtain ⟨token, inTokens, rfl⟩ := List.mem_map.mp member
      exact text_ne_nil_of_mem_tokensFrom _ _ token inTokens
    have compared := Text.append_spread_eq_collapse_iff
      (Identifier.backquote (ofParts offset head expression tail).name)
      ((ofParts offset head expression tail).tokens.map Token.text) (trimmed_backquote _)
      (List.cons_ne_nil _ _) nonempty
    rw [kept, spelledOut, compared, singleSpaced_backquote]
    exact ⟨fun ⟨name, parted⟩ => ⟨toStore, name, parted⟩, fun ⟨_, name, parted⟩ => ⟨name, parted⟩⟩

end Column

end DumpRestore
