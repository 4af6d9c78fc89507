/-
This file says what a merge of SQL modes consists of. A mode string and the list of its names are
one thing once the names are in the form in which they are compared: names in that form are joined
and read again without a change. What a merge says is therefore what the list says that it was
joined from, and merging once more adds the names that are there and leaves out those that are not.
-/

import DumpRestore.Proofs.Text.Case
import DumpRestore.SqlMode

namespace DumpRestore

/-! ### Lists without duplicates -/

section Duplicates

variable {Item : Type} [BEq Item] [LawfulBEq Item]

theorem eraseDups_of_nodup (items : List Item) (distinct : items.Nodup) :
    items.eraseDups = items := by
  induction items with
  | nil => rfl
  | cons item items inductionHypothesis =>
    obtain ⟨fresh, others⟩ := List.nodup_cons.mp distinct
    have kept : items.filter (fun other => !other == item) = items := by
      refine List.filter_eq_self.mpr fun other member => ?_
      rw [Bool.not_eq_true', beq_eq_false_iff_ne]
      exact fun same => fresh (same ▸ member)
    rw [List.eraseDups_cons, kept, inductionHypothesis others]

theorem nodup_eraseDups (items : List Item) : items.eraseDups.Nodup := by
  match items with
  | [] => exact List.nodup_nil
  | item :: items =>
    rw [List.eraseDups_cons]
    refine List.nodup_cons.mpr ⟨fun member => ?_, nodup_eraseDups _⟩
    have kept := (List.mem_filter.mp (List.mem_eraseDups.mp member)).2
    rw [beq_self_eq_true] at kept
    cases kept
termination_by items.length
decreasing_by exact Nat.lt_succ_of_le (List.length_filter_le _ _)

/-- Items put in front once more of what was kept of them and others change nothing. -/
theorem filter_eraseDups_append (first second : List Item) (keep : Item → Bool) :
    (first ++ (first ++ second).eraseDups.filter keep).eraseDups.filter keep =
      (first ++ second).eraseDups.filter keep := by
  let fresh := (second.removeAll first).eraseDups
  have split : (first ++ second).eraseDups = first.eraseDups ++ fresh := List.eraseDups_append
  have isFresh (item : Item) (member : item ∈ fresh) : (!first.elem item) = true :=
    (List.mem_filter.mp (List.mem_eraseDups.mp member)).2
  -- Of the items that were kept, those that stand in front already go away, and no others do.
  have removed : (first.eraseDups.filter keep ++ fresh.filter keep).removeAll first =
      fresh.filter keep := by
    have gone : (first.eraseDups.filter keep).filter (fun item => !first.elem item) = [] := by
      refine List.filter_eq_nil_iff.mpr fun item member => ?_
      have inFirst := List.mem_eraseDups.mp (List.mem_filter.mp member).1
      rw [List.elem_eq_true_of_mem inFirst]
      exact Bool.false_ne_true
    have stay : (fresh.filter keep).filter (fun item => !first.elem item) = fresh.filter keep :=
      List.filter_eq_self.mpr fun item member => isFresh item (List.mem_filter.mp member).1
    rw [List.removeAll, List.filter_append, gone, stay, List.nil_append]
  have distinct : (fresh.filter keep).Nodup := List.Pairwise.filter keep (nodup_eraseDups _)
  have again : (fresh.filter keep).filter keep = fresh.filter keep :=
    List.filter_eq_self.mpr fun item member => (List.mem_filter.mp member).2
  rw [split, List.filter_append, List.eraseDups_append, removed,
    eraseDups_of_nodup _ distinct, List.filter_append, again]

end Duplicates

namespace SqlMode

/-! ### Names -/

/-- The name of a mode in the form in which names are compared. -/
structure IsName (name : Text) : Prop where
  nonempty : name ≠ []
  noComma : ',' ∉ name
  trimmed : Text.Trimmed name
  upper : Text.upper name = name

theorem isName_normalize (piece : Text) (noComma : ',' ∉ piece) (nonblank : Text.trim piece ≠ []) :
    IsName (normalize piece) where
  nonempty := Text.upper_ne_nil nonblank
  noComma := Text.comma_not_mem_upper fun member => noComma ((Text.trim_sublist piece).mem member)
  trimmed := Text.trimmed_upper (Text.trimmed_trim piece)
  upper := Text.upper_upper (Text.trim piece)

theorem isName_of_mem_parse (modes name : Text) (member : name ∈ parse modes) : IsName name := by
  obtain ⟨piece, inPieces, rfl⟩ := List.mem_map.mp member
  obtain ⟨inText, nonblank⟩ := List.mem_filter.mp inPieces
  refine isName_normalize piece (Text.not_mem_of_mem_splitOn ',' modes piece inText) ?_
  exact fun blank => by rw [blank] at nonblank; cases nonblank

theorem parse_of_isName (name : Text) (isName : IsName name) : parse name = [name] := by
  have trim := Text.trim_of_trimmed name isName.trimmed
  have nonblank : (Text.trim name).isEmpty = false := by
    rw [trim]
    exact List.isEmpty_eq_false_iff.mpr isName.nonempty
  have normal : normalize name = name := by rw [normalize, trim, isName.upper]
  rw [parse, Text.splitOn_of_not_mem ',' name isName.noComma, List.filter_cons, nonblank]
  exact congrArg (fun found => [found]) normal

/-! ### Mode strings -/

/-- Joined mode strings are read one by one. -/
theorem parse_join (texts : List Text) : parse (Text.join "," texts) = texts.flatMap parse := by
  cases texts with
  | nil => rfl
  | cons first texts =>
    show parse (Text.join [','] (first :: texts)) = _
    rw [parse, Text.splitOn_join, List.filter_flatMap, List.map_flatMap]
    rfl

/-- Names are joined and read again without a change. -/
theorem parse_join_names (names : List Text) (areNames : ∀ name ∈ names, IsName name) :
    parse (Text.join "," names) = names := by
  rw [parse_join]
  induction names with
  | nil => rfl
  | cons name names inductionHypothesis =>
    obtain ⟨isName, others⟩ := List.forall_mem_cons.mp areNames
    rw [List.flatMap_cons, parse_of_isName name isName, inductionHypothesis others]
    rfl

theorem isEmpty_normalize (piece : Text) :
    (normalize piece).isEmpty = (Text.trim piece).isEmpty := by
  rw [normalize]
  cases equal : Text.trim piece with
  | nil => rfl
  | cons first rest =>
    exact List.isEmpty_eq_false_iff.mpr (Text.upper_ne_nil (List.cons_ne_nil first rest))

/-- The names in a mode string are its pieces in the form in which names are compared, the empty
ones left out. -/
theorem parse_eq_filter (modes : Text) :
    parse modes = ((Text.splitOn ',' modes).map normalize).filter fun name => !name.isEmpty := by
  rw [parse, List.filter_map]
  refine congrArg _ (List.filter_congr fun piece _ => ?_)
  rw [Function.comp, isEmpty_normalize]

/-! ### Merging -/

theorem isName_of_mem_mergedNames (current : Text) (add remove : List Text) (name : Text)
    (member : name ∈ mergedNames current add remove) : IsName name := by
  have listed := List.mem_eraseDups.mp (List.mem_filter.mp member).1
  exact (List.mem_append.mp listed).elim (isName_of_mem_parse _ name) (isName_of_mem_parse _ name)

/-- A merge consists of the names that it was joined from. -/
theorem parse_merge (current : Text) (add remove : List Text) :
    parse (merge current add remove) = mergedNames current add remove :=
  parse_join_names _ (isName_of_mem_mergedNames current add remove)

theorem merge_merge (current : Text) (add remove : List Text) :
    merge (merge current add remove) add remove = merge current add remove := by
  have same : mergedNames (merge current add remove) add remove =
      mergedNames current add remove := by
    rw [mergedNames, parse_merge]
    exact filter_eraseDups_append _ _ _
  rw [merge, same, merge]

/-- The names in the texts to add and then those in the current modes: the pieces between commas,
in the form in which names are compared, the empty ones left out. -/
def named (current : Text) (add : List Text) : List Text :=
  (((add ++ [current]).flatMap (Text.splitOn ',')).map normalize).filter fun name => !name.isEmpty

theorem named_eq (current : Text) (add : List Text) :
    named current add = parse (Text.join "," add) ++ parse current := by
  have each : (add ++ [current]).flatMap parse = named current add := by
    rw [named, List.map_flatMap, List.filter_flatMap]
    exact congrArg (fun read => List.flatMap read _) (funext parse_eq_filter)
  rw [← each, List.flatMap_append, parse_join]
  exact congrArg _ (List.append_nil _)

/-- A merge consists of the names to add and then the current ones, each at its first place only,
without the excluded ones. No name is there twice, none is an excluded one, and merging the result
once more with the same lists leaves it as it is. -/
theorem parse_merge_eq_named (current : Text) (add remove : List Text) :
    parse (merge current add remove) =
        ((named current add).eraseDups.filter fun name =>
          name ∉ blocklist ∧ name ∉ remove.map normalize) ∧
      (parse (merge current add remove)).Nodup ∧
      (∀ name ∈ parse (merge current add remove),
        name ∉ blocklist ∧ name ∉ remove.map normalize) ∧
      merge (merge current add remove) add remove = merge current add remove := by
  have names : parse (merge current add remove) =
      (named current add).eraseDups.filter fun name =>
        name ∉ blocklist ∧ name ∉ remove.map normalize := by
    rw [parse_merge, mergedNames, named_eq]
    refine List.filter_congr fun name _ => ?_
    rw [Bool.eq_iff_iff, Bool.not_eq_true', decide_eq_true_iff, Bool.eq_false_iff, ne_eq,
      List.elem_iff, excluded, List.mem_append, not_or]
  refine ⟨names, ?_, fun name member => ?_, merge_merge current add remove⟩
  · rw [names]
    exact List.Pairwise.filter _ (nodup_eraseDups _)
  · rw [names] at member
    exact of_decide_eq_true (List.mem_filter.mp member).2

example : merge "ansi, Strict_Trans_Tables,ANSI" ["no_zero_in_date"] ["pipes"] =
    "NO_ZERO_IN_DATE,ANSI" := by decide +kernel

end SqlMode

end DumpRestore
