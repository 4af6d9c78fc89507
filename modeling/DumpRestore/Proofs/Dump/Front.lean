/-
This file proves that what stands in front of a header makes no difference to what is reported
behind it, not even a quote or a comment that is still open there. A header in a literal or in a
comment is therefore reported like any other one, and a dump that is put into a comment as a whole
like one that is not. The report is that of the headers outside literals and comments exactly if no
other header, read by itself to the end of the dump, has generated columns.
-/

import DumpRestore.Proofs.Dump.Headers
import DumpRestore.Proofs.Table.Places
import Mathlib.Data.List.Flatten

namespace DumpRestore

/-- A header whose dump has been moved. -/
def TableHeader.moved (distance : Nat) (header : TableHeader) : TableHeader :=
  { header with position := distance + header.position }

namespace Dump

/-! ### Text in front of a dump -/

theorem headersFrom_add (distance owed position : Nat) (text : Text) :
    headersFrom owed (distance + position) text =
      (headersFrom owed position text).map (TableHeader.moved distance) := by
  fun_induction headersFrom owed position text with
  | case1 => rw [headersFrom_nil]; rfl
  | case2 owed position character rest inductionHypothesis =>
    rw [headersFrom_owed, Nat.add_assoc, inductionHypothesis]
  | case3 position character rest table after found inductionHypothesis =>
    rw [headersFrom_found _ _ _ _ _ found, Nat.add_assoc, inductionHypothesis]
    rfl
  | case4 position character rest missing inductionHypothesis =>
    rw [headersFrom_missing _ _ _ missing, Nat.add_assoc, inductionHypothesis]

/-- The headers behind a text in which none starts. -/
theorem headersFrom_append (before text : Text) (position : Nat)
    (noHeader : ∀ header ∈ headersFrom 0 position (before ++ text),
      position + before.length ≤ header.position) :
    headersFrom 0 position (before ++ text) = headersFrom 0 (position + before.length) text := by
  induction before generalizing position with
  | nil => rfl
  | cons character before inductionHypothesis =>
    rw [List.cons_append] at noHeader ⊢
    rw [List.length_cons] at noHeader
    cases here : header? (character :: (before ++ text)) with
    | some found =>
      rw [headersFrom_found _ _ _ _ _ here] at noHeader
      have first : position + (before.length + 1) ≤ position := noHeader _ List.mem_cons_self
      omega
    | none =>
      rw [headersFrom_missing _ _ _ here] at noHeader ⊢
      rw [inductionHypothesis (position + 1) fun header member => ?_, List.length_cons,
        Nat.add_assoc, Nat.add_comm 1]
      have further := noHeader header member
      omega

theorem columnsOf_moved (distance : Nat) (header : TableHeader) :
    columnsOf (header.moved distance) = (columnsOf header).map (Column.moved distance) :=
  (congrArg (TableBody.columns · header.statement) (Int.natCast_add _ _)).trans
    (TableBody.columns_add distance header.position header.statement)

/-- Text in which no header starts moves the report of what stands behind it and changes none of the
statements, whatever it leaves open. -/
theorem columns_append (before text : Text)
    (noHeader : ∀ header ∈ headers (before ++ text), before.length ≤ header.position) :
    columns (before ++ text) =
        (columns text).map (fun (table, column) => (table, column.moved before.length)) ∧
      ∀ onMariaDb, alterStatements onMariaDb (before ++ text) = alterStatements onMariaDb text := by
  have headersMoved : headers (before ++ text) =
      (headers text).map (TableHeader.moved before.length) := by
    rw [headers, headersFrom_append before text 0 fun header member =>
      (Nat.zero_add before.length).symm ▸ noHeader header member, Nat.zero_add]
    exact headersFrom_add before.length 0 0 text
  have columnsMoved : columns (before ++ text) =
      (columns text).map fun (table, column) => (table, column.moved before.length) := by
    rw [columns, headersMoved, List.flatMap_map, columns, List.map_flatMap]
    refine congrArg (List.flatMap · (headers text)) (funext fun header => ?_)
    rw [columnsOf_moved, List.map_map, List.map_map]
    rfl
  refine ⟨columnsMoved, fun onMariaDb => ?_⟩
  rw [alterStatements, alterStatements, columnsMoved, List.filterMap_map]
  refine List.filterMap_congr fun (table, column) _ => ?_
  dsimp only [Function.comp_apply]
  rw [Column.storedDefinition_moved, Column.alterToStored_moved]
  rfl

/-! ### Hidden headers -/

/-- A position lies in a string literal or in a comment of the dump. A header that stands there is
read by a reader of a table body as part of the literal or of the comment (`Hidden.arrives`). -/
def Hidden (dump : Text) (position : Nat) : Prop :=
  (TableBody.placeAfter .plain (dump.take position)).hides = true

instance (dump : Text) : DecidablePred (Hidden dump) :=
  fun _ => inferInstanceAs (Decidable (_ = true))

/-- A reader of a table body that comes over the text in front of a hidden header is in a literal or
in a comment at the header, if it is too deep for its body to end in that text. -/
theorem Hidden.arrives {dump : Text} {header : TableHeader} (hidden : Hidden dump header.position)
    (member : header ∈ headers dump) (position : Nat) (depth : Int)
    (current : TableBody.Progress) (deep : (header.position : Int) + 1 < depth) :
    ∃ place, place.hides = true ∧ TableBody.Arrives .plain position depth current
      (dump.take header.position) place header.statement := by
  obtain ⟨letter, after, statement, inWord⟩ :=
    exists_letter_of_mem_headersFrom 0 0 dump header member
  have short : (dump.take header.position).length ≤ header.position := List.length_take_le _ dump
  have arrives := TableBody.arrives_placeAfter .plain (dump.take header.position) position depth
    current letter after inWord TableBody.opened_plain (by omega)
  rw [← statement] at arrives
  exact ⟨_, hidden, arrives⟩

/-- The columns of the headers that stand neither in a literal nor in a comment. -/
def visibleColumns (dump : Text) : List (Text × Column) :=
  ((headers dump).filter fun header => !decide (Hidden dump header.position)).flatMap fun header =>
    (columnsOf header).map fun column => (header.table, column)

/-! ### Dumps in a comment -/

/-- A dump with a slash-star in front, which begins a comment. -/
def commentedOut (dump : Text) : Text :=
  '/' :: '*' :: dump

/-- A dump without a star-slash is nothing but the comment that begins in front of it. -/
theorem hidden_commentedOut (dump : Text) (unclosed : ¬ ['*', '/'] <:+: dump) (position : Nat)
    (behind : 2 ≤ position) : Hidden (commentedOut dump) position := by
  obtain ⟨within, rfl⟩ := Nat.exists_eq_add_of_le' behind
  have steps : TableBody.Steps .blockComment (dump.take within) .blockComment [] :=
    TableBody.steps_blockComment _ [] (fun inside => unclosed (inside.trans
      (List.take_prefix within dump).isInfix)) fun slash => by cases slash
  have place := steps.placeAfter fun quote impossible => by cases impossible
  rw [List.append_nil] at place
  exact congrArg TableBody.Place.hides place

/-- No header starts in the slash-star. -/
theorem le_position_of_mem_commentedOut (dump : Text) (header : TableHeader)
    (member : header ∈ headers (commentedOut dump)) : 2 ≤ header.position := by
  have noSlash : header? ('/' :: '*' :: dump) = none := rfl
  have noStar : header? ('*' :: dump) = none := rfl
  rw [headers, commentedOut, headersFrom_missing _ _ _ noSlash,
    headersFrom_missing _ _ _ noStar] at member
  obtain ⟨lead, _, stands⟩ := standing_of_mem_headersFrom _ _ _ header member
  omega

/-- A dump without a star-slash is reported in a comment as it is without one. -/
theorem columns_commentedOut (dump : Text) (unclosed : ¬ ['*', '/'] <:+: dump) :
    (∀ header ∈ headers (commentedOut dump), Hidden (commentedOut dump) header.position) ∧
      columns (commentedOut dump) =
        (columns dump).map (fun (table, column) => (table, column.moved 2)) ∧
      ∀ onMariaDb,
        alterStatements onMariaDb (commentedOut dump) = alterStatements onMariaDb dump :=
  have behind := le_position_of_mem_commentedOut dump
  ⟨fun header member => hidden_commentedOut dump unclosed header.position (behind header member),
    columns_append ['/', '*'] dump behind⟩

/-! ### What is reported -/

/-- The columns of a header are those that its text has by itself, moved to its position. -/
theorem columnsOf_eq (dump : Text) (header : TableHeader) (member : header ∈ headers dump) :
    columnsOf header =
      (TableBody.columns 0 (dump.drop header.position)).map (Column.moved header.position) := by
  have moved := TableBody.columns_add header.position 0 (dump.drop header.position)
  rw [Int.add_zero] at moved
  rw [columnsOf, statement_of_mem_headers dump header member, moved]

/-- A header reports nothing exactly if its text has no columns by itself. -/
theorem rows_eq_nil_iff (dump : Text) (header : TableHeader) (member : header ∈ headers dump) :
    (columnsOf header).map (fun column => (header.table, column)) = [] ↔
      TableBody.columns 0 (dump.drop header.position) = [] := by
  rw [List.map_eq_nil_iff, columnsOf_eq dump header member, List.map_eq_nil_iff]

/-- Items can be left out exactly if nothing comes of them. -/
theorem flatMap_eq_filter_iff {Item Result : Type} (items : List Item) (keep : Item → Bool)
    (results : Item → List Result) :
    items.flatMap results = (items.filter keep).flatMap results ↔
      ∀ item ∈ items, keep item = false → results item = [] := by
  induction items with
  | nil => simp
  | cons item items inductionHypothesis =>
    rw [List.forall_mem_cons, ← inductionHypothesis, List.filter_cons, List.flatMap_cons]
    cases keep item with
    | true =>
      rw [if_pos rfl, List.flatMap_cons, List.append_cancel_left_eq]
      simp
    | false =>
      rw [if_neg Bool.false_ne_true]
      have part : (items.filter keep).Sublist items := List.filter_sublist
      have shorter := (part.flatMap results).length_le
      constructor
      · intro same
        have length := congrArg List.length same
        rw [List.length_append] at length
        have nothing : results item = [] := List.eq_nil_of_length_eq_zero (by omega)
        rw [nothing, List.nil_append] at same
        exact ⟨fun _ => nothing, same⟩
      · rintro ⟨nothing, same⟩
        rw [nothing rfl, List.nil_append, same]

/-- Only what stands outside literals and comments is reported exactly if no hidden header has
generated columns. -/
theorem columns_eq_visibleColumns_iff (dump : Text) :
    columns dump = visibleColumns dump ↔ ∀ header ∈ headers dump,
      Hidden dump header.position → TableBody.columns 0 (dump.drop header.position) = [] := by
  rw [columns, visibleColumns, flatMap_eq_filter_iff]
  refine forall₂_congr fun header member => ?_
  rw [Bool.not_eq_false', decide_eq_true_iff, rows_eq_nil_iff dump header member]

/-- Nothing is reported of a dump exactly if no header in it, with what stands behind it and without
what stands in front of it, has generated columns. What is reported is what the headers outside
literals and comments have, exactly if no header in a literal or in a comment has generated columns.
A dump that is put into a comment as a whole is reported all the same. -/
theorem columns_eq_nil_iff (dump : Text) :
    ((columns dump = [] ∧ ∀ onMariaDb, alterStatements onMariaDb dump = []) ↔
      ∀ header ∈ headers dump, TableBody.columns 0 (dump.drop header.position) = []) ∧
    (columns dump = visibleColumns dump ↔ ∀ header ∈ headers dump,
      Hidden dump header.position → TableBody.columns 0 (dump.drop header.position) = []) ∧
    (¬ ['*', '/'] <:+: dump →
      (∀ header ∈ headers (commentedOut dump), Hidden (commentedOut dump) header.position) ∧
      columns (commentedOut dump) =
        (columns dump).map (fun (table, column) => (table, column.moved 2)) ∧
      ∀ onMariaDb,
        alterStatements onMariaDb (commentedOut dump) = alterStatements onMariaDb dump) := by
  have rows : columns dump = [] ↔
      ∀ header ∈ headers dump, TableBody.columns 0 (dump.drop header.position) = [] := by
    rw [columns, List.flatMap_eq_nil_iff]
    exact forall₂_congr (rows_eq_nil_iff dump)
  refine ⟨?_, columns_eq_visibleColumns_iff dump, columns_commentedOut dump⟩
  rw [rows]
  refine and_iff_left_of_imp fun silent onMariaDb => ?_
  rw [alterStatements, rows.mpr silent]
  rfl

/-- A dump whose only header is part of a string that is inserted. -/
def insertedStatement : Text :=
  "INSERT INTO \x60n\x60 VALUES ('CREATE TABLE \x60t\x60 (\x60a\x60 int AS (1))')"

/-- The column behind a hidden header is reported all the same. -/
theorem columns_hidden :
    (∀ header ∈ headers insertedStatement, Hidden insertedStatement header.position) ∧
      columns insertedStatement ≠ [] ∧ alterStatements false insertedStatement ≠ [] := by
  decide +kernel

end Dump

end DumpRestore
