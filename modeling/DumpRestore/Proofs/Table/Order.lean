/-
This file proves that tables are compared by a total preorder. A comparison looks first at whether
a table is a view, then at the group its name belongs to, and last at the name itself; each of the
three is a linear order, and only the name and the sort of a table matter. Sorting therefore puts
every pair in order, and its outcome does not depend on the order in which the tables come.
-/

import DumpRestore.Table.Order

namespace DumpRestore

/-! ### Code-point order -/

namespace Text

/-- Code-point order compares texts character by character. -/
theorem order_eq_compareLex : order = List.compareLex compare := by
  funext first second
  induction first generalizing second with
  | nil => cases second <;> rfl
  | cons character first inductionHypothesis =>
    cases second with
    | nil => rfl
    | cons other second =>
      have characters : compare character other = if character.val < other.val then .lt
          else if character = other then .eq else .gt := rfl
      rw [order, List.compareLex_cons_cons, inductionHypothesis, characters]
      split
      · rfl
      · rename_i notLess
        split
        · rename_i greater
          have different : character ≠ other := by
            rintro rfl
            exact notLess greater
          rw [if_neg different]
          rfl
        · rename_i notGreater
          have same : character = other :=
            Char.le_antisymm (UInt32.not_lt.mp notGreater) (UInt32.not_lt.mp notLess)
          rw [if_pos same]
          rfl

instance : Std.TransCmp order := by
  rw [order_eq_compareLex]
  infer_instance

instance : Std.LawfulEqCmp order := by
  rw [order_eq_compareLex]
  infer_instance

end Text

/-- What a comparison sees of a table: its name, and whether it is a view. -/
def Table.standing (table : Table) : Text × Bool :=
  (table.name, table.isView)

namespace TableOrder

/-! ### Groups of names -/

section Groups

variable (order : TableOrder)

/-- The group of a name. In a WordPress database each of the tables that come first is a group of
its own, core tables are the next group, and all others the last; where there is no prefix, and in
other databases, names are not told apart. -/
def group (name : Text) : Nat :=
  if order.databaseType = wordPress then
    match order.priority? name with
    | some place => place
    | none =>
      if order.tablePrefix.isEmpty || order.isCore name then priorityTables.length
      else priorityTables.length + 1
  else 0

/-- A table that comes first is known by its place. -/
theorem priority?_eq_some (name : Text) (place : Nat)
    (found : order.priority? name = some place) :
    ∃ bound : place < priorityTables.length,
      name = order.tablePrefix ++ priorityTables[place] := by
  obtain ⟨bound, equal, _⟩ := List.findIdx?_eq_some_iff_getElem.mp found
  exact ⟨bound, (beq_iff_eq.mp equal).symm⟩

theorem priority?_inj (first second : Text) (place : Nat)
    (firstFound : order.priority? first = some place)
    (secondFound : order.priority? second = some place) : first = second := by
  obtain ⟨_, firstEqual⟩ := order.priority?_eq_some first place firstFound
  obtain ⟨_, secondEqual⟩ := order.priority?_eq_some second place secondFound
  rw [firstEqual, secondEqual]

theorem group_of_priority (name : Text) (place : Nat) (type : order.databaseType = wordPress)
    (found : order.priority? name = some place) : order.group name = place := by
  rw [group, if_pos type, found]

/-- The groups of the tables that come first are the lowest ones. -/
theorem length_le_group (name : Text) (type : order.databaseType = wordPress)
    (missing : order.priority? name = none) : priorityTables.length ≤ order.group name := by
  rw [group, if_pos type, missing]
  dsimp only
  split
  · exact Nat.le_refl _
  · exact Nat.le_succ _

/-- Two names of one place are the same name. -/
theorem compare_places (first second : Text) (firstPlace secondPlace : Nat)
    (firstFound : order.priority? first = some firstPlace)
    (secondFound : order.priority? second = some secondPlace) :
    compare firstPlace secondPlace =
      (compare firstPlace secondPlace).then (Text.order first second) := by
  cases result : compare firstPlace secondPlace with
  | lt | gt => rfl
  | eq =>
    have same := Nat.compare_eq_eq.mp result
    subst same
    rw [order.priority?_inj first second firstPlace firstFound secondFound]
    exact Std.ReflCmp.compare_self.symm

/-- Names in a WordPress database are compared by their groups, and by themselves in a group. -/
theorem compareNames_eq_then (first second : Text) (type : order.databaseType = wordPress) :
    order.compareNames first second =
      (compare (order.group first) (order.group second)).then (Text.order first second) := by
  unfold compareNames
  cases firstFound : order.priority? first with
  | some firstPlace =>
    obtain ⟨bound, _⟩ := order.priority?_eq_some first firstPlace firstFound
    rw [order.group_of_priority first firstPlace type firstFound]
    cases secondFound : order.priority? second with
    | some secondPlace =>
      rw [order.group_of_priority second secondPlace type secondFound]
      exact order.compare_places first second firstPlace secondPlace firstFound secondFound
    | none =>
      have reaches := order.length_le_group second type secondFound
      rw [Nat.compare_eq_lt.mpr (Nat.lt_of_lt_of_le bound reaches)]
      rfl
  | none =>
    cases secondFound : order.priority? second with
    | some secondPlace =>
      obtain ⟨bound, _⟩ := order.priority?_eq_some second secondPlace secondFound
      have reaches := order.length_le_group first type firstFound
      rw [order.group_of_priority second secondPlace type secondFound,
        Nat.compare_eq_gt.mpr (Nat.lt_of_lt_of_le bound reaches)]
      rfl
    | none =>
      rw [group, group, if_pos type, if_pos type, firstFound, secondFound]
      dsimp only
      have equal (place : Nat) : compare place place = .eq := Nat.compare_eq_eq.mpr rfl
      have core : compare priorityTables.length (priorityTables.length + 1) = .lt := rfl
      have others : compare (priorityTables.length + 1) priorityTables.length = .gt := rfl
      cases order.tablePrefix.isEmpty with
      | true => rw [Bool.true_or, Bool.true_or, if_pos rfl, equal]; rfl
      | false =>
        rw [Bool.false_or, Bool.false_or, if_neg Bool.false_ne_true]
        cases order.isCore first <;> cases order.isCore second
        · rw [if_neg Bool.false_ne_true, equal]; rfl
        · rw [if_neg Bool.false_ne_true, if_pos rfl, others]; rfl
        · rw [if_neg Bool.false_ne_true, if_pos rfl, core]; rfl
        · rw [if_pos rfl, equal]; rfl

/-! ### The comparison of tables -/

/-- Tables are compared by their sort, by the groups of their names, and by their names. -/
theorem compareTables_eq_compareLex :
    order.compareTables = compareLex (compareOn Table.isView)
      (compareLex (compareOn fun table => order.group table.name)
        fun first second => Text.order first.name second.name) := by
  funext first second
  have names : (if order.databaseType = wordPress then order.compareNames first.name second.name
      else Text.order first.name second.name) =
      (compare (order.group first.name) (order.group second.name)).then
        (Text.order first.name second.name) := by
    split
    · rename_i type
      exact order.compareNames_eq_then first.name second.name type
    · rename_i type
      rw [group, if_neg type, group, if_neg type]
      rfl
  unfold compareTables compareLex compareOn
  cases first.isView <;> cases second.isView
  · exact names
  · rfl
  · rfl
  · exact names

instance : Std.TransCmp fun first second : Table => Text.order first.name second.name where
  eq_swap := Std.OrientedCmp.eq_swap
  isLE_trans := Std.TransCmp.isLE_trans

instance : Std.TransCmp order.compareTables := by
  rw [compareTables_eq_compareLex]
  infer_instance

theorem compareTables_eq_eq_iff (first second : Table) :
    order.compareTables first second = .eq ↔ first.standing = second.standing := by
  rw [compareTables_eq_compareLex, compareLex, Ordering.then_eq_eq, compareLex,
    Ordering.then_eq_eq, compareOn, compareOn, Std.LawfulEqCmp.compare_eq_iff_eq,
    Std.LawfulEqCmp.compare_eq_iff_eq, Std.LawfulEqCmp.compare_eq_iff_eq, Table.standing,
    Table.standing, Prod.mk.injEq]
  constructor
  · rintro ⟨sameSort, _, sameName⟩
    exact ⟨sameName, sameSort⟩
  · rintro ⟨sameName, sameSort⟩
    exact ⟨sameSort, congrArg order.group sameName, sameName⟩

theorem compareTables_trans (first second third : Table)
    (former : order.compareTables first second ≠ .gt)
    (latter : order.compareTables second third ≠ .gt) :
    order.compareTables first third ≠ .gt :=
  Ordering.isLE_iff_ne_gt.mp (Std.TransCmp.isLE_trans (Ordering.isLE_iff_ne_gt.mpr former)
    (Ordering.isLE_iff_ne_gt.mpr latter))

/-- A table in order before another one is no view unless the other one is. -/
theorem isView_of_compareTables (first second : Table)
    (inOrder : order.compareTables first second ≠ .gt) (view : first.isView = true) :
    second.isView = true := by
  cases other : second.isView with
  | true => rfl
  | false =>
    unfold compareTables at inOrder
    rw [view, other] at inOrder
    exact absurd rfl inOrder

/-! ### Sorting -/

/-- Sorting puts every pair in order. -/
theorem pairwise_sort (tables : List Table) :
    (order.sort tables).Pairwise fun first second => order.compareTables first second ≠ .gt := by
  have chained (first second third : Table)
      (former : (order.compareTables first second != .gt) = true)
      (latter : (order.compareTables second third != .gt) = true) :
      (order.compareTables first third != .gt) = true :=
    bne_iff_ne.mpr (order.compareTables_trans first second third (bne_iff_ne.mp former)
      (bne_iff_ne.mp latter))
  have total (first second : Table) : ((order.compareTables first second != .gt) ||
      (order.compareTables second first != .gt)) = true := by
    have swapped : order.compareTables second first = (order.compareTables first second).swap :=
      Std.OrientedCmp.eq_swap
    rw [swapped]
    cases order.compareTables first second <;> rfl
  exact (List.pairwise_mergeSort chained total tables).imp fun inOrder => bne_iff_ne.mp inOrder

theorem sort_perm (tables : List Table) : (order.sort tables).Perm tables :=
  List.mergeSort_perm tables _

/-- Sorted lists of the same tables show the same names and sorts in the same order. -/
theorem map_standing_sort (tables others : List Table) (same : tables.Perm others) :
    (order.sort tables).map Table.standing = (order.sort others).map Table.standing := by
  -- Two tables that no comparison tells apart have one standing, so the order is antisymmetric
  -- on standings, and a list in order is determined by its members.
  have sorted (list : List Table) : ((order.sort list).map Table.standing).Pairwise
      fun first second => ∀ table other : Table, table.standing = first →
        other.standing = second → order.compareTables table other ≠ .gt := by
    refine List.pairwise_map.mpr ((order.pairwise_sort list).imp ?_)
    intro first second inOrder table other tableStanding otherStanding
    have tableEqual := (order.compareTables_eq_eq_iff table first).mpr tableStanding
    have otherEqual := (order.compareTables_eq_eq_iff other second).mpr otherStanding
    rwa [Std.TransCmp.congr_left tableEqual, Std.TransCmp.congr_right otherEqual]
  refine List.Perm.eq_of_pairwise ?_ (sorted tables) (sorted others) ?_
  · intro first second firstMember secondMember former latter
    obtain ⟨table, _, rfl⟩ := List.mem_map.mp firstMember
    obtain ⟨other, _, rfl⟩ := List.mem_map.mp secondMember
    refine (order.compareTables_eq_eq_iff table other).mp ?_
    have forward := former table other rfl rfl
    have backward := latter other table rfl rfl
    have swapped : order.compareTables other table = (order.compareTables table other).swap :=
      Std.OrientedCmp.eq_swap
    rw [swapped] at backward
    cases result : order.compareTables table other with
    | eq => rfl
    | lt => rw [result] at backward; exact absurd rfl backward
    | gt => exact absurd result forward
  · exact ((order.sort_perm tables).trans (same.trans (order.sort_perm others).symm)).map _

/-- Comparing is a total preorder in which exactly the tables with one name and one sort are equal.
Sorting returns the same tables with every pair in order and all views behind all other tables, and
lists with the same tables come out with the same names and sorts. -/
theorem compareTables_sort :
    (∀ first second third : Table,
      order.compareTables second first = (order.compareTables first second).swap ∧
      (order.compareTables first second ≠ .gt → order.compareTables second third ≠ .gt →
        order.compareTables first third ≠ .gt) ∧
      (order.compareTables first second = .lt → order.compareTables second third = .lt →
        order.compareTables first third = .lt) ∧
      (order.compareTables first second = .eq ↔
        first.name = second.name ∧ first.isView = second.isView)) ∧
    ∀ tables : List Table, (order.sort tables).Perm tables ∧
      ((order.sort tables).Pairwise fun first second =>
        order.compareTables first second ≠ .gt ∧ (first.isView = true → second.isView = true)) ∧
      ∀ others, tables.Perm others →
        (order.sort tables).map Table.standing = (order.sort others).map Table.standing := by
  constructor
  · intro first second third
    refine ⟨Std.OrientedCmp.eq_swap, order.compareTables_trans first second third,
      Std.TransCmp.lt_trans, ?_⟩
    rw [order.compareTables_eq_eq_iff, Table.standing, Table.standing, Prod.mk.injEq]
  · intro tables
    refine ⟨order.sort_perm tables, ?_, order.map_standing_sort tables⟩
    exact (order.pairwise_sort tables).imp fun inOrder =>
      ⟨inOrder, order.isView_of_compareTables _ _ inOrder⟩

end Groups

/-- A table that comes first, a core table and a view of one database, in two orders. -/
theorem compareTables_sort_wordPress :
    let order : TableOrder :=
      { databaseType := "wp", tablePrefix := "wp_", coreTables := ["posts"] }
    let options : Table := { name := "wp_options" }
    let posts : Table := { name := "wp_posts" }
    let view : Table := { name := "wp_aa", type := "VIEW" }
    order.compareTables options posts = .lt ∧ order.compareTables posts view = .lt ∧
      order.compareTables options view = .lt ∧ order.compareTables options view ≠ .gt ∧
      [view, posts, options].Perm [options, posts, view] ∧
      (order.sort [view, posts, options]).map Table.standing =
        (order.sort [options, posts, view]).map Table.standing := by
  intro order options posts view
  have former : order.compareTables options posts = .lt := by decide
  have latter : order.compareTables posts view = .lt := by decide
  have permuted : [view, posts, options].Perm [options, posts, view] := by decide
  obtain ⟨preorder, sorting⟩ := order.compareTables_sort
  obtain ⟨_, chained, strict, _⟩ := preorder options posts view
  refine ⟨former, latter, strict former latter, chained ?_ ?_, permuted, ?_⟩
  · rw [former]
    decide
  · rw [latter]
    decide
  · exact (sorting [view, posts, options]).2.2 _ permuted

end TableOrder

end DumpRestore
