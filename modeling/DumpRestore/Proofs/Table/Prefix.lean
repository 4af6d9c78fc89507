/-
This file says which names are ranked as core tables. A name that begins with the prefix is ranked
by what stands behind it. The prefix is taken out wherever it stands first, though, and a name
without it is looked up as it is, so that names which do not begin with the prefix can be ranked as
core tables as well. Those are the strays; two tables are compared by prefixed core names exactly if
both names are strays, if neither is, or if code-point order puts the one stray where it belongs.
-/

import DumpRestore.Proofs.Table.Order
import Mathlib.Data.List.Basic

namespace DumpRestore

/-! ### The first place of a text in another one -/

namespace Text

/-- The text around the first place at which a needle stands. -/
structure FirstCut (needle text before after : Text) : Prop where
  equal : text = before ++ (needle ++ after)
  first : ∀ earlier later, text = earlier ++ (needle ++ later) → before.length ≤ earlier.length

variable {needle text before after : Text}

theorem FirstCut.unique (cut : FirstCut needle text before after) {earlier later : Text}
    (other : FirstCut needle text earlier later) : before = earlier ∧ after = later := by
  have length : before.length = earlier.length :=
    Nat.le_antisymm (cut.first _ _ other.equal) (other.first _ _ cut.equal)
  obtain ⟨same, behind⟩ := List.append_inj (cut.equal.symm.trans other.equal) length
  exact ⟨same, List.append_cancel_left behind⟩

theorem splitFirst?_cons (character : Char) (rest : Text) :
    splitFirst? needle (character :: rest) = match needle.isPrefixOf? (character :: rest) with
      | some after => some ([], after)
      | none => (splitFirst? needle rest).map fun (before, after) => (character :: before, after) :=
  rfl

theorem firstCut_of_splitFirst? (found : splitFirst? needle text = some (before, after)) :
    FirstCut needle text before after := by
  induction text generalizing before with
  | nil =>
    obtain ⟨rest, begins, equal⟩ := Option.map_eq_some_iff.mp found
    cases equal
    exact ⟨(List.isPrefixOf?_eq_some_iff_append_eq.mp begins).symm, fun _ _ _ => Nat.zero_le _⟩
  | cons character text inductionHypothesis =>
    rw [splitFirst?_cons] at found
    split at found
    · rename_i rest begins
      cases found
      exact ⟨(List.isPrefixOf?_eq_some_iff_append_eq.mp begins).symm, fun _ _ _ => Nat.zero_le _⟩
    · rename_i nothing
      obtain ⟨⟨lead, rest⟩, further, equal⟩ := Option.map_eq_some_iff.mp found
      cases equal
      obtain ⟨cut, first⟩ := inductionHypothesis further
      refine ⟨congrArg (character :: ·) cut, fun earlier later equal => ?_⟩
      cases earlier with
      | nil =>
        rw [List.nil_append, eq_comm, ← List.isPrefixOf?_eq_some_iff_append_eq, nothing] at equal
        cases equal
      | cons other earlier =>
        exact Nat.succ_le_succ (first earlier later (List.cons.inj equal).2)

theorem not_isInfix_of_splitFirst? (missing : splitFirst? needle text = none) :
    ¬ needle <:+: text := by
  rintro ⟨earlier, later, equal⟩
  rw [List.append_assoc] at equal
  subst equal
  induction earlier with
  | nil =>
    have begins : needle.isPrefixOf? (needle ++ later) = some later :=
      List.isPrefixOf?_eq_some_iff_append_eq.mpr rfl
    cases equal : needle ++ later with
    | nil =>
      rw [List.nil_append, equal, splitFirst?, ← equal, begins] at missing
      cases missing
    | cons character rest =>
      rw [equal] at begins
      rw [List.nil_append, equal, splitFirst?_cons, begins] at missing
      cases missing
  | cons character earlier inductionHypothesis =>
    rw [List.cons_append, splitFirst?_cons] at missing
    split at missing
    · cases missing
    · exact inductionHypothesis (Option.map_eq_none_iff.mp missing)

end Text

namespace TableOrder

variable (order : TableOrder)

/-! ### Prefixed names and strays -/

/-- Whether a name is the prefix with a core name behind it. -/
def isPrefixedCore (name : Text) : Bool :=
  order.coreTables.any fun core => order.tablePrefix ++ core == name

/-- A name that does not begin with the prefix and is a core name all the same: as it is, or where
the prefix is taken out at its first place. -/
inductive Stray (name : Text) : Prop
  | bare (absent : ¬ order.tablePrefix <:+: name) (core : name ∈ order.coreTables)
  | inside (before after : Text) (cut : Text.FirstCut order.tablePrefix name before after)
      (nonempty : before ≠ []) (core : before ++ after ∈ order.coreTables)

variable {order} {name : Text}

theorem isPrefixedCore_iff :
    order.isPrefixedCore name = true ↔
      ∃ core ∈ order.coreTables, name = order.tablePrefix ++ core := by
  simp only [isPrefixedCore, List.any_eq_true, beq_iff_eq, eq_comm (a := name)]

theorem Stray.not_isPrefixedCore (stray : order.Stray name) :
    order.isPrefixedCore name = false := by
  rw [Bool.eq_false_iff]
  intro isPrefixed
  obtain ⟨core, _, equal⟩ := isPrefixedCore_iff.mp isPrefixed
  cases stray with
  | bare absent => exact absent (equal ▸ (List.prefix_append _ core).isInfix)
  | inside before after cut nonempty =>
    exact nonempty (List.eq_nil_of_length_eq_zero (Nat.le_zero.mp (cut.first [] core equal)))

/-- Exactly the prefixed core names and the strays are ranked as core tables. -/
theorem isCore_iff (nonempty : order.tablePrefix ≠ []) :
    order.isCore name = true ↔ order.isPrefixedCore name = true ∨ order.Stray name := by
  have some? : order.tablePrefix.isEmpty = false := List.isEmpty_eq_false_iff.mpr nonempty
  rw [isCore, List.elem_eq_mem, decide_eq_true_eq, Text.replaceFirst, some?,
    if_neg Bool.false_ne_true, isPrefixedCore_iff]
  cases found : Text.splitFirst? order.tablePrefix name with
  | none =>
    have absent := Text.not_isInfix_of_splitFirst? found
    constructor
    · exact fun core => .inr (.bare absent core)
    · rintro (⟨core, _, rfl⟩ | ⟨_, core⟩ | ⟨before, after, cut, _, _⟩)
      · exact absurd (List.prefix_append _ core).isInfix absent
      · exact core
      · exact absurd ⟨before, after, by rw [cut.equal, List.append_assoc]⟩ absent
  | some parts =>
    obtain ⟨before, after⟩ := parts
    have cut := Text.firstCut_of_splitFirst? found
    show before ++ [] ++ after ∈ order.coreTables ↔ _
    rw [List.append_nil]
    constructor
    · intro core
      by_cases empty : before = []
      · subst empty
        exact .inl ⟨after, core, cut.equal⟩
      · exact .inr (.inside before after cut empty core)
    · rintro (⟨core, member, equal⟩ | ⟨absent, _⟩ | ⟨earlier, later, other, _, core⟩)
      · have starts : Text.FirstCut order.tablePrefix name [] core :=
          ⟨equal, fun _ _ _ => Nat.zero_le _⟩
        obtain ⟨rfl, rfl⟩ := cut.unique starts
        exact member
      · exact absurd ⟨before, after, by rw [cut.equal, List.append_assoc]⟩ absent
      · obtain ⟨rfl, rfl⟩ := cut.unique other
        exact core

theorem Stray.isCore (stray : order.Stray name) (nonempty : order.tablePrefix ≠ []) :
    order.isCore name = true :=
  (isCore_iff nonempty).mpr (.inr stray)

theorem isCore_of_not_stray (nonempty : order.tablePrefix ≠ []) (noStray : ¬ order.Stray name) :
    order.isCore name = order.isPrefixedCore name :=
  Bool.eq_iff_iff.mpr ((isCore_iff nonempty).trans (or_iff_left noStray))

/-! ### Comparing by prefixed names -/

/-- The comparison that puts names of some sort in front of all others, and names decide
otherwise. -/
def frontOrder (inFront : Text → Bool) (first second : Text) : Ordering :=
  match inFront first, inFront second with
  | true, false => .lt
  | false, true => .gt
  | _, _ => Text.order first second

theorem frontOrder_swap (inFront : Text → Bool) (first second : Text) :
    frontOrder inFront second first = (frontOrder inFront first second).swap := by
  have names : Text.order second first = (Text.order first second).swap :=
    Std.OrientedCmp.eq_swap
  unfold frontOrder
  cases inFront first <;> cases inFront second
  · exact names
  · rfl
  · rfl
  · exact names

variable (order)

/-- Tables that do not come first are compared by whether they are ranked as core tables. -/
theorem compareTables_eq_frontOrder (first second : Table)
    (type : order.databaseType = wordPress) (nonempty : order.tablePrefix ≠ [])
    (sameSort : first.isView = second.isView)
    (firstLater : order.priority? first.name = none)
    (secondLater : order.priority? second.name = none) :
    order.compareTables first second = frontOrder order.isCore first.name second.name := by
  have names : order.compareNames first.name second.name =
      frontOrder order.isCore first.name second.name := by
    rw [compareNames, firstLater, secondLater]
    dsimp only
    rw [List.isEmpty_eq_false_iff.mpr nonempty, if_neg Bool.false_ne_true]
    rfl
  rw [compareTables, sameSort, if_pos type, names]
  cases second.isView <;> rfl

/-- Code-point order puts a name behind a prefixed core name, and in front of any other one. -/
def FallsInPlace (stray other : Text) : Prop :=
  Text.order stray other = if order.isPrefixedCore other then .gt else .lt

/-- A stray is ranked in front of names that are none, and belongs there only if its name does. -/
theorem frontOrder_stray_iff (stray other : Text) (nonempty : order.tablePrefix ≠ [])
    (isStray : order.Stray stray) (noStray : ¬ order.Stray other) :
    frontOrder order.isCore stray other = frontOrder order.isPrefixedCore stray other ↔
      order.FallsInPlace stray other := by
  rw [frontOrder, frontOrder, FallsInPlace, isStray.isCore nonempty,
    isCore_of_not_stray nonempty noStray, isStray.not_isPrefixedCore]
  cases order.isPrefixedCore other with
  | true => exact Iff.rfl
  | false => exact eq_comm

/-- Two tables of one sort that do not come first are compared by prefixed core names exactly if
both names are strays, if neither is, or if the name of the one that is falls where it belongs. -/
theorem compareTables_eq_prefixed_iff (first second : Table)
    (type : order.databaseType = wordPress) (nonempty : order.tablePrefix ≠ [])
    (sameSort : first.isView = second.isView)
    (firstLater : order.priority? first.name = none)
    (secondLater : order.priority? second.name = none) :
    order.compareTables first second =
        frontOrder order.isPrefixedCore first.name second.name ↔
      (order.Stray first.name ↔ order.Stray second.name) ∨
        (order.Stray first.name ∧ ¬ order.Stray second.name ∧
          order.FallsInPlace first.name second.name) ∨
        (order.Stray second.name ∧ ¬ order.Stray first.name ∧
          order.FallsInPlace second.name first.name) := by
  rw [order.compareTables_eq_frontOrder first second type nonempty sameSort firstLater secondLater]
  by_cases firstStray : order.Stray first.name <;> by_cases secondStray : order.Stray second.name
  · refine iff_of_true ?_ (.inl (iff_of_true firstStray secondStray))
    rw [frontOrder, frontOrder, firstStray.isCore nonempty, secondStray.isCore nonempty,
      firstStray.not_isPrefixedCore, secondStray.not_isPrefixedCore]
  · rw [order.frontOrder_stray_iff _ _ nonempty firstStray secondStray]
    simp only [firstStray, secondStray, iff_false, not_true, not_false_eq_true, true_and,
      false_and, false_or, or_false]
  · rw [← Ordering.swap_inj, ← frontOrder_swap, ← frontOrder_swap,
      order.frontOrder_stray_iff _ _ nonempty secondStray firstStray]
    simp only [firstStray, secondStray, false_iff, not_true, not_false_eq_true, true_and,
      false_and, false_or]
  · refine iff_of_true ?_ (.inl (iff_of_false firstStray secondStray))
    rw [frontOrder, frontOrder, isCore_of_not_stray nonempty firstStray,
      isCore_of_not_stray nonempty secondStray]

/-- Two strays of a WordPress database, a core name as it is and one with the prefix behind it. -/
theorem compareTables_eq_prefixed_iff_strays :
    let order : TableOrder :=
      { databaseType := "wp", tablePrefix := "wp_", coreTables := ["links", "posts"] }
    let posts : Table := { name := "posts" }
    let links : Table := { name := "linkswp_" }
    order.databaseType = wordPress ∧ order.tablePrefix ≠ [] ∧ posts.isView = links.isView ∧
      order.priority? posts.name = none ∧ order.priority? links.name = none ∧
      order.compareTables posts links =
        frontOrder order.isPrefixedCore posts.name links.name := by
  intro order posts links
  have type : order.databaseType = wordPress := rfl
  have nonempty : order.tablePrefix ≠ [] := by decide
  have postsLater : order.priority? posts.name = none := by decide
  have linksLater : order.priority? links.name = none := by decide
  have postsStray : order.Stray posts.name :=
    .bare (Text.not_isInfix_of_splitFirst? (by decide)) (by decide)
  have linksStray : order.Stray links.name :=
    .inside "links" [] (Text.firstCut_of_splitFirst? (by decide)) (by decide) (by decide)
  refine ⟨type, nonempty, rfl, postsLater, linksLater, ?_⟩
  exact (order.compareTables_eq_prefixed_iff posts links type nonempty rfl postsLater
    linksLater).mpr (.inl (iff_of_true postsStray linksStray))

/-- A core name without the prefix, and one with the prefix inside it, are ranked in front of a name
that stands before them. -/
theorem compareTables_unprefixed :
    let order : TableOrder :=
      { databaseType := "wp", tablePrefix := "wp_", coreTables := ["posts"] }
    let alpha : Table := { name := "alpha" }
    order.databaseType = wordPress ∧ order.tablePrefix ≠ [] ∧
      ∀ stray ∈ [({ name := "posts" } : Table), { name := "powp_sts" }],
        stray.isView = alpha.isView ∧ order.priority? stray.name = none ∧
          order.priority? alpha.name = none ∧ order.compareTables stray alpha = .lt ∧
          frontOrder order.isPrefixedCore stray.name alpha.name = .gt := by
  decide

end TableOrder

end DumpRestore
