/-
This file proves what the attributes of a stored column say. Rewriting takes VIRTUAL away, and NULL
and PERSISTENT where the server does not accept them; it brings in no keyword but STORED; and it
leaves alone attributes that say none of the three. Rewriting a second time therefore changes
nothing.
-/

import DumpRestore.Column.Stored
import DumpRestore.Proofs.Column.Contents

namespace DumpRestore

open Text (Run)

namespace Column

/-! ### Words and runs -/

theorem hasWord_eq_any (keyword text : Text) :
    Text.hasWord keyword text = (Run.ofText text).any (Run.isKeyword keyword) := by
  refine congrArg (List.any _) (funext fun run => ?_)
  cases run <;> rfl

/-! ### Dropping NULL -/

theorem dropNullability_sublist (runs : List Run) : (dropNullability runs).Sublist runs := by
  fun_induction dropNullability runs with
  | case1 => exact List.Sublist.refl _
  | case2 first between second rest _ inductionHypothesis =>
    exact ((inductionHypothesis.cons _).cons _).cons _
  | case3 first between second rest _ _ inductionHypothesis => exact inductionHypothesis.cons _
  | case4 first between second rest _ _ inductionHypothesis => exact inductionHypothesis.cons_cons _
  | case5 text rest _ _ inductionHypothesis => exact inductionHypothesis.cons _
  | case6 text rest _ _ inductionHypothesis => exact inductionHypothesis.cons_cons _
  | case7 text rest inductionHypothesis => exact inductionHypothesis.cons_cons _

theorem startsWord_dropNullability (runs : List Run) (apart : Run.startsWord runs = false) :
    Run.startsWord (dropNullability runs) = false := by
  cases runs with
  | nil => rfl
  | cons first rest =>
    cases first with
    | word text => cases apart
    | gap text =>
      rw [dropNullability]
      rfl

theorem separated_dropNullability (runs : List Run) (separated : Run.Separated runs) :
    Run.Separated (dropNullability runs) := by
  fun_induction dropNullability runs with
  | case1 => exact .nil
  | case2 first between second rest _ inductionHypothesis =>
    cases separated with
    | word _ _ _ _ _ separated =>
      cases separated with
      | gap _ _ _ _ separated =>
        cases separated with
        | word _ _ _ _ _ further => exact inductionHypothesis further
  | case3 first between second rest _ _ inductionHypothesis =>
    cases separated with
    | word _ _ _ _ _ further => exact inductionHypothesis further
  | case4 first between second rest _ _ inductionHypothesis =>
    cases separated with
    | word _ _ nonempty inWord apart further =>
      exact .word _ _ nonempty inWord (startsWord_dropNullability _ apart)
        (inductionHypothesis further)
  | case5 text rest _ _ inductionHypothesis =>
    cases separated with
    | word _ _ _ _ _ further => exact inductionHypothesis further
  | case6 text rest _ _ inductionHypothesis =>
    cases separated with
    | word _ _ nonempty inWord apart further =>
      exact .word _ _ nonempty inWord (startsWord_dropNullability _ apart)
        (inductionHypothesis further)
  | case7 text rest inductionHypothesis =>
    cases separated with
    | gap _ _ nonempty between further =>
      exact .gap _ _ nonempty between (inductionHypothesis further)

theorem not_null_dropNullability (runs : List Run) :
    (dropNullability runs).any (Run.isKeyword "null") = false := by
  fun_induction dropNullability runs with
  | case1 => rfl
  | case2 first between second rest _ inductionHypothesis => exact inductionHypothesis
  | case3 first between second rest _ _ inductionHypothesis => exact inductionHypothesis
  | case4 first between second rest _ notNull inductionHypothesis =>
    rw [List.any_cons, inductionHypothesis, Bool.or_false]
    exact Bool.eq_false_iff.mpr notNull
  | case5 text rest _ _ inductionHypothesis => exact inductionHypothesis
  | case6 text rest _ notNull inductionHypothesis =>
    rw [List.any_cons, inductionHypothesis, Bool.or_false]
    exact Bool.eq_false_iff.mpr notNull
  | case7 text rest inductionHypothesis =>
    rw [List.any_cons, inductionHypothesis]
    rfl

theorem dropNullability_eq_self (runs : List Run)
    (absent : runs.any (Run.isKeyword "null") = false) : dropNullability runs = runs := by
  fun_induction dropNullability runs with
  | case1 => rfl
  | case2 first between second rest both inductionHypothesis =>
    have isNull : Text.isKeyword "null" second = true := (Bool.and_eq_true_iff.mp both).2
    simp only [List.any_cons, Run.isKeyword, isNull, Bool.true_or, Bool.or_true,
      Bool.true_eq_false] at absent
  | case3 first between second rest _ isNull inductionHypothesis =>
    rw [List.any_cons, Run.isKeyword, isNull] at absent
    cases absent
  | case4 first between second rest _ _ inductionHypothesis =>
    rw [List.any_cons, Bool.or_eq_false_iff] at absent
    rw [inductionHypothesis absent.2]
  | case5 text rest _ isNull inductionHypothesis =>
    rw [List.any_cons, Run.isKeyword, isNull] at absent
    cases absent
  | case6 text rest _ _ inductionHypothesis =>
    rw [List.any_cons, Bool.or_eq_false_iff] at absent
    rw [inductionHypothesis absent.2]
  | case7 text rest inductionHypothesis =>
    rw [List.any_cons, Bool.or_eq_false_iff] at absent
    rw [inductionHypothesis absent.2]

/-! ### Renaming the storage -/

section Renaming

variable (persistentToo : Bool)

theorem separated_map_renameStorage (runs : List Run) (separated : Run.Separated runs) :
    Run.Separated (runs.map (renameStorage persistentToo)) := by
  have starts (others : List Run) :
      Run.startsWord (others.map (renameStorage persistentToo)) = Run.startsWord others := by
    cases others with
    | nil => rfl
    | cons first others =>
      cases first with
      | gap text => rfl
      | word text =>
        rw [List.map_cons, renameStorage]
        split <;> rfl
  induction separated with
  | nil => exact .nil
  | word text others nonempty inWord apart further inductionHypothesis =>
    have apartToo := (starts others).trans apart
    rw [List.map_cons, renameStorage]
    split
    · let stored : Text.Word := .ofText "STORED" rfl
      exact .word _ _ stored.nonempty stored.inWord apartToo inductionHypothesis
    · exact .word _ _ nonempty inWord apartToo inductionHypothesis
  | gap text others nonempty between further inductionHypothesis =>
    exact .gap _ _ nonempty between inductionHypothesis

/-- No run is a keyword after renaming that is neither STORED nor was one before. -/
theorem isKeyword_of_renameStorage (keyword : Text) (run : Run)
    (notStored : Text.isKeyword keyword "STORED" = false)
    (said : Run.isKeyword keyword (renameStorage persistentToo run) = true) :
    Run.isKeyword keyword run = true := by
  cases run with
  | gap text => cases said
  | word text =>
    rw [renameStorage] at said
    split at said
    · rw [Run.isKeyword, notStored] at said
      cases said
    · exact said

theorem not_virtual_renameStorage (run : Run) :
    Run.isKeyword "virtual" (renameStorage persistentToo run) = false := by
  cases run with
  | gap text => rfl
  | word text =>
    rw [renameStorage]
    split
    · decide
    · rename_i kept
      rw [Run.isKeyword, Bool.eq_false_iff]
      exact fun said => kept (by rw [said, Bool.true_or])

theorem not_persistent_renameStorage (run : Run) :
    Run.isKeyword "persistent" (renameStorage true run) = false := by
  cases run with
  | gap text => rfl
  | word text =>
    rw [renameStorage]
    split
    · decide
    · rename_i kept
      rw [Run.isKeyword, Bool.eq_false_iff]
      exact fun said => kept (by rw [said, Bool.true_and, Bool.or_true])

theorem map_renameStorage_eq_self (runs : List Run)
    (notVirtual : runs.any (Run.isKeyword "virtual") = false)
    (notPersistent : persistentToo = true → runs.any (Run.isKeyword "persistent") = false) :
    runs.map (renameStorage persistentToo) = runs := by
  refine (List.map_congr_left fun run member => ?_).trans (List.map_id runs)
  cases run with
  | gap text => rfl
  | word text =>
    have virtual : Text.isKeyword "virtual" text = false :=
      Bool.eq_false_iff.mpr (List.any_eq_false.mp notVirtual _ member)
    have persistent : (persistentToo && Text.isKeyword "persistent" text) = false := by
      cases persistentToo with
      | false => rfl
      | true => exact Bool.eq_false_iff.mpr (List.any_eq_false.mp (notPersistent rfl) _ member)
    rw [renameStorage, virtual, persistent]
    rfl

end Renaming

/-! ### The words of a stored column -/

section StoredWords

variable (isVirtual : Bool) (support : ColumnSupport) (words : Text)

/-- The runs that are kept of attribute words. -/
def keptRuns : List Run :=
  if support.notNullSupported then Run.ofText words else dropNullability (Run.ofText words)

theorem storedWords_eq : storedWords isVirtual support words = Run.toText
    ((keptRuns support words).map (renameStorage (!isVirtual && !support.persistentSupported))) :=
  rfl

theorem keptRuns_sublist : (keptRuns support words).Sublist (Run.ofText words) := by
  rw [keptRuns]
  split
  · exact List.Sublist.refl _
  · exact dropNullability_sublist _

theorem separated_keptRuns : Run.Separated (keptRuns support words) := by
  rw [keptRuns]
  split
  · exact Run.separated_ofText words
  · exact separated_dropNullability _ (Run.separated_ofText words)

theorem hasWord_storedWords (keyword : Text) :
    Text.hasWord keyword (storedWords isVirtual support words) = ((keptRuns support words).map
      (renameStorage (!isVirtual && !support.persistentSupported))).any (Run.isKeyword keyword) := by
  rw [storedWords_eq]
  exact Run.hasWord_toText keyword _
    (separated_map_renameStorage _ _ (separated_keptRuns support words))

/-- Rewriting brings in no keyword but STORED. -/
theorem hasWord_of_storedWords (keyword : Text)
    (notStored : Text.isKeyword keyword "STORED" = false)
    (said : Text.hasWord keyword (storedWords isVirtual support words) = true) :
    Text.hasWord keyword words = true := by
  rw [hasWord_storedWords, List.any_eq_true] at said
  obtain ⟨renamed, member, isKeyword⟩ := said
  obtain ⟨run, inKept, rfl⟩ := List.mem_map.mp member
  rw [hasWord_eq_any, List.any_eq_true]
  exact ⟨run, (keptRuns_sublist support words).subset inKept,
    isKeyword_of_renameStorage _ keyword run notStored isKeyword⟩

theorem not_virtual_storedWords :
    Text.hasWord "virtual" (storedWords isVirtual support words) = false := by
  rw [hasWord_storedWords, List.any_map, List.any_eq_false]
  exact fun run _ => Bool.eq_false_iff.mp (not_virtual_renameStorage _ run)

theorem not_persistent_storedWords (actual : isVirtual = false)
    (unsupported : support.persistentSupported = false) :
    Text.hasWord "persistent" (storedWords isVirtual support words) = false := by
  rw [hasWord_storedWords, actual, unsupported, List.any_map, List.any_eq_false]
  exact fun run _ => Bool.eq_false_iff.mp (not_persistent_renameStorage run)

theorem not_null_storedWords (unsupported : support.notNullSupported = false) :
    Text.hasWord "null" (storedWords isVirtual support words) = false := by
  have kept : keptRuns support words = dropNullability (Run.ofText words) := by
    rw [keptRuns, unsupported, if_neg Bool.false_ne_true]
  have absent := not_null_dropNullability (Run.ofText words)
  rw [List.any_eq_false] at absent
  rw [hasWord_storedWords, kept, List.any_map, List.any_eq_false]
  exact fun run member said => absent run member
    (isKeyword_of_renameStorage _ "null" run (by decide) said)

theorem onlyWords_storedWords (onlyWords : Text.OnlyWords words) :
    Text.OnlyWords (storedWords isVirtual support words) := by
  intro character member
  rw [storedWords_eq, Run.toText] at member
  obtain ⟨renamed, inRenamed, inText⟩ := List.mem_flatMap.mp member
  obtain ⟨run, inKept, rfl⟩ := List.mem_map.mp inRenamed
  have before : character ∈ run.text →
      Text.isWordChar character = true ∨ Text.isBlank character = true := by
    intro inRun
    refine onlyWords character ?_
    rw [← Run.toText_ofText words]
    exact List.mem_flatMap.mpr ⟨run, (keptRuns_sublist support words).subset inKept, inRun⟩
  cases run with
  | gap text => exact before inText
  | word text =>
    rw [renameStorage] at inText
    split at inText
    · exact Text.onlyWords_of_all "STORED" rfl character inText
    · exact before inText

/-- Words that leave nothing to be rewritten are kept. -/
theorem storedWords_eq_self (notVirtual : Text.hasWord "virtual" words = false)
    (notNull : support.notNullSupported = false → Text.hasWord "null" words = false)
    (notPersistent : isVirtual = false → support.persistentSupported = false →
      Text.hasWord "persistent" words = false) :
    storedWords isVirtual support words = words := by
  rw [hasWord_eq_any] at notVirtual notNull notPersistent
  have kept : keptRuns support words = Run.ofText words := by
    rw [keptRuns]
    split
    · rfl
    · rename_i unsupported
      exact dropNullability_eq_self _ (notNull (Bool.eq_false_iff.mpr unsupported))
  rw [storedWords_eq, kept, map_renameStorage_eq_self _ _ notVirtual, Run.toText_ofText]
  intro renames
  rw [Bool.and_eq_true, Bool.not_eq_true', Bool.not_eq_true'] at renames
  exact notPersistent renames.1 renames.2

end StoredWords

/-! ### The attributes of a stored column -/

/-- The attributes of a stored column: their bare words rewritten. -/
def storedAttributes (isVirtual : Bool) (support : ColumnSupport) (attributes : Text) : Text :=
  Attributes.mapBare (storedWords isVirtual support) attributes

/-- The keywords that rewriting takes away. -/
def unwantedKeywords (support : ColumnSupport) : List Text :=
  [("virtual" : Text)] ++ (if support.notNullSupported then [] else [("null" : Text)]) ++
    (if support.persistentSupported then [] else [("persistent" : Text)])

/-- Attributes that say nothing that rewriting takes away. -/
structure Settled (support : ColumnSupport) (attributes : Text) : Prop where
  whole : Attributes.Whole attributes
  silent : ∀ keyword ∈ unwantedKeywords support, Attributes.say keyword attributes = false

theorem mem_unwantedKeywords (support : ColumnSupport) (keyword : Text) :
    keyword ∈ unwantedKeywords support ↔ keyword = "virtual" ∨
      (support.notNullSupported = false ∧ keyword = "null") ∨
      (support.persistentSupported = false ∧ keyword = "persistent") := by
  rw [unwantedKeywords, List.mem_append, List.mem_append, List.mem_singleton, or_assoc]
  cases support.notNullSupported <;> cases support.persistentSupported <;>
    simp only [if_true, if_false, Bool.false_eq_true, Bool.true_eq_false, List.not_mem_nil,
      List.mem_singleton, true_and, false_and, or_false]

/-- Rewriting leaves attributes alone that say nothing it takes away. PERSISTENT is taken away from
columns only that are not virtual. -/
theorem storedAttributes_eq_self (isVirtual : Bool) (support : ColumnSupport) (attributes : Text)
    (whole : Attributes.Whole attributes)
    (notVirtual : Attributes.say "virtual" attributes = false)
    (notNull : support.notNullSupported = false → Attributes.say "null" attributes = false)
    (notPersistent : isVirtual = false → support.persistentSupported = false →
      Attributes.say "persistent" attributes = false) :
    storedAttributes isVirtual support attributes = attributes := by
  let silent := [("virtual" : Text), "null", "persistent"].filter fun keyword =>
    !Attributes.say keyword attributes
  refine Attributes.mapBare_eq_self _ silent attributes whole (fun words absent => ?_)
    fun keyword member => ?_
  · have absentHere (keyword : Text)
        (member : keyword ∈ [("virtual" : Text), "null", "persistent"])
        (unsaid : Attributes.say keyword attributes = false) : Text.hasWord keyword words = false :=
      absent keyword (List.mem_filter.mpr ⟨member, by rw [unsaid]; rfl⟩)
    exact storedWords_eq_self isVirtual support words (absentHere _ (by simp) notVirtual)
      (fun unsupported => absentHere _ (by simp) (notNull unsupported))
      fun actual unsupported => absentHere _ (by simp) (notPersistent actual unsupported)
  · exact (Bool.not_eq_true' _).mp (List.mem_filter.mp member).2

/-- Rewriting leaves settled attributes alone. -/
theorem Settled.storedAttributes_eq {support : ColumnSupport} {attributes : Text}
    (settled : Settled support attributes) :
    storedAttributes false support attributes = attributes := by
  refine storedAttributes_eq_self false support attributes settled.whole ?_ (fun unsupported => ?_)
    fun _ unsupported => ?_
  · exact settled.silent _ ((mem_unwantedKeywords support _).mpr (Or.inl rfl))
  · exact settled.silent _
      ((mem_unwantedKeywords support _).mpr (Or.inr (Or.inl ⟨unsupported, rfl⟩)))
  · exact settled.silent _
      ((mem_unwantedKeywords support _).mpr (Or.inr (Or.inr ⟨unsupported, rfl⟩)))

section StoredAttributes

variable (isVirtual : Bool) (support : ColumnSupport) (attributes : Text)

theorem storedAttributes_nil : storedAttributes isVirtual support [] = [] := by
  rw [storedAttributes, Attributes.mapBare_words _ [] Attributes.onlyWords_nil]
  exact storedWords_eq_self isVirtual support [] rfl (fun _ => rfl) fun _ _ => rfl

variable (whole : Attributes.Whole attributes)

include whole

theorem whole_storedAttributes :
    Attributes.Whole (storedAttributes isVirtual support attributes) :=
  whole.mapBare _ (onlyWords_storedWords isVirtual support)

theorem not_virtual_storedAttributes :
    Attributes.say "virtual" (storedAttributes isVirtual support attributes) = false :=
  Attributes.not_say_mapBare "virtual" _ attributes whole (onlyWords_storedWords isVirtual support)
    (not_virtual_storedWords isVirtual support)

/-- Rewritten attributes are settled. PERSISTENT is left in those of a virtual column, so that they
must not say it. -/
theorem settled_storedAttributes (notBoth : isVirtual = true →
      Attributes.say "persistent" attributes = false) :
    Settled support (storedAttributes isVirtual support attributes) := by
  have keeps := onlyWords_storedWords isVirtual support
  refine ⟨whole_storedAttributes isVirtual support attributes whole, fun keyword member => ?_⟩
  rcases (mem_unwantedKeywords support keyword).mp member with
    rfl | ⟨unsupported, rfl⟩ | ⟨unsupported, rfl⟩
  · exact not_virtual_storedAttributes isVirtual support attributes whole
  · exact Attributes.not_say_mapBare "null" _ attributes whole keeps fun words =>
      not_null_storedWords isVirtual support words unsupported
  · cases actual : isVirtual with
    | false =>
      rw [actual] at keeps
      exact Attributes.not_say_mapBare "persistent" _ attributes whole keeps fun words =>
        not_persistent_storedWords false support words rfl unsupported
    | true =>
      rw [Bool.eq_false_iff]
      intro said
      rw [actual] at keeps
      have before := Attributes.say_of_mapBare "persistent" _ attributes whole keeps
        (fun words => hasWord_of_storedWords true support words "persistent" (by decide)) said
      rw [notBoth actual] at before
      cases before

end StoredAttributes

end Column

end DumpRestore
