/-
This file says when every column of a dump is reported once and under its own table, the one that
the last header in front of it names. The columns of one header are never a problem: they stand
behind it and come in order. But each header reads on to the end of its body, and where it has no
body of its own it takes the next one. The report is right exactly if no header reads a column
behind the next header, unless that header names the same table and does not read the column
itself.
-/

import DumpRestore.Proofs.Dump.Headers
import Mathlib.Data.List.Nodup
import Mathlib.Data.List.Pairwise

namespace DumpRestore.Dump

/-! ### The header in front of a position -/

/-- The last header in front of a position. -/
def headerBefore? (dump : Text) (offset : Int) : Option TableHeader :=
  ((headers dump).filter fun header => decide ((header.position : Int) < offset)).getLast?

theorem exists_headerBefore? (dump : Text) (offset : Int) (header : TableHeader)
    (member : header ∈ headers dump) (before : (header.position : Int) < offset) :
    ∃ last, headerBefore? dump offset = some last := by
  have kept : header ∈ (headers dump).filter fun header =>
      decide ((header.position : Int) < offset) :=
    List.mem_filter.mpr ⟨member, decide_eq_true before⟩
  exact ⟨_, List.getLast?_eq_some_getLast (List.ne_nil_of_mem kept)⟩

theorem mem_of_headerBefore? (dump : Text) (offset : Int) (last : TableHeader)
    (found : headerBefore? dump offset = some last) :
    last ∈ headers dump ∧ (last.position : Int) < offset := by
  obtain ⟨inDump, before⟩ := List.mem_filter.mp (List.mem_of_getLast? found)
  exact ⟨inDump, of_decide_eq_true before⟩

/-- All other headers in front of a position stand before the last one. -/
theorem eq_or_lt_of_headerBefore? (dump : Text) (offset : Int) (last header : TableHeader)
    (found : headerBefore? dump offset = some last) (member : header ∈ headers dump)
    (before : (header.position : Int) < offset) :
    last = header ∨ header.position < last.position := by
  obtain ⟨others, equal⟩ := List.getLast?_eq_some_iff.mp found
  have kept : header ∈ others ++ [last] :=
    equal ▸ List.mem_filter.mpr ⟨member, decide_eq_true before⟩
  have ordered := (pairwise_headersFrom 0 0 dump).filter fun header =>
    decide ((header.position : Int) < offset)
  rw [headers] at equal
  rw [equal, List.pairwise_append] at ordered
  rcases List.mem_append.mp kept with inOthers | isLast
  · exact Or.inr (ordered.2.2 header inOthers last List.mem_cons_self)
  · exact Or.inl (List.mem_singleton.mp isLast).symm

/-! ### A right report -/

/-- Every column is reported once, and under the table that the last header in front of its
expression names. -/
structure Attributed (dump : Text) : Prop where
  once : ((columns dump).map fun row => row.2.expressionOffset?).Nodup
  own : ∀ row ∈ columns dump, ∀ offset ∈ row.2.expressionOffset?,
    (headerBefore? dump offset).map TableHeader.table = some row.1

/-- A header reports a column, at the position of its expression. -/
def Reports (dump : Text) (header : TableHeader) (offset : Int) : Prop :=
  header ∈ headers dump ∧ ∃ column ∈ columnsOf header, column.expressionOffset? = some offset

theorem mem_columns (dump : Text) (header : TableHeader) (column : Column)
    (inDump : header ∈ headers dump) (inHeader : column ∈ columnsOf header) :
    (header.table, column) ∈ columns dump :=
  List.mem_flatMap.mpr ⟨header, inDump, List.mem_map.mpr ⟨column, inHeader, rfl⟩⟩

theorem Reports.exists_headerBefore? {dump : Text} {header : TableHeader} {offset : Int}
    (reports : Reports dump header offset) : ∃ last, headerBefore? dump offset = some last := by
  obtain ⟨inDump, column, inHeader, isOffset⟩ := reports
  obtain ⟨position, isPosition, behind⟩ := TableBody.lt_expressionOffset? _ _ column inHeader
  rw [isOffset] at isPosition
  cases isPosition
  exact Dump.exists_headerBefore? dump offset header inDump behind

/-- Two rows of a report are at one position only where two headers report it. -/
theorem once_iff (dump : Text) :
    ((columns dump).map fun row => row.2.expressionOffset?).Nodup ↔
      ∀ first second offset, Reports dump first offset → Reports dump second offset →
        first = second := by
  have positions : ((columns dump).map fun row => row.2.expressionOffset?) =
      (headers dump).flatMap fun header => (columnsOf header).map Column.expressionOffset? := by
    rw [columns, List.map_flatMap]
    exact congrArg (List.flatMap · _) (funext fun header => List.map_map)
  have inOrder (header : TableHeader) :
      ((columnsOf header).map Column.expressionOffset?).Nodup := by
    refine List.Pairwise.map _ (fun first second ordered same => ?_)
      (TableBody.pairwise_columns header.position header.statement)
    obtain ⟨before, after, isBefore, isAfter, less⟩ := ordered
    rw [isBefore, isAfter, Option.some.injEq] at same
    exact absurd same (Int.ne_of_lt less)
  rw [positions, List.nodup_flatMap, and_iff_right fun header _ => inOrder header]
  constructor
  · intro apart first second offset firstReports secondReports
    obtain ⟨firstIn, firstColumn, inFirst, isFirst⟩ := firstReports
    obtain ⟨secondIn, secondColumn, inSecond, isSecond⟩ := secondReports
    have symmetric : Std.Symm (Function.onFun List.Disjoint fun header : TableHeader =>
        (columnsOf header).map Column.expressionOffset?) :=
      ⟨fun _ _ apart _ here there => apart there here⟩
    by_contra different
    exact apart.forall firstIn secondIn different (List.mem_map.mpr ⟨firstColumn, inFirst, isFirst⟩)
      (List.mem_map.mpr ⟨secondColumn, inSecond, isSecond⟩)
  · intro unique
    refine (pairwise_headersFrom 0 0 dump).imp_of_mem fun {first second} firstIn secondIn less => ?_
    intro position inFirst inSecond
    obtain ⟨firstColumn, firstMember, rfl⟩ := List.mem_map.mp inFirst
    obtain ⟨secondColumn, secondMember, isSecond⟩ := List.mem_map.mp inSecond
    obtain ⟨offset, isOffset, _⟩ := TableBody.lt_expressionOffset? _ _ firstColumn firstMember
    have equal := unique first second offset ⟨firstIn, firstColumn, firstMember, isOffset⟩
      ⟨secondIn, secondColumn, secondMember, isSecond.trans isOffset⟩
    exact absurd (congrArg TableHeader.position equal) (Nat.ne_of_lt less)

/-- A column is in place under a header: no other header stands between them, or the last one
between them names the same table, and then no other header reports the column. -/
def InPlace (dump : Text) (header : TableHeader) (offset : Int) : Prop :=
  ∀ last ∈ headerBefore? dump offset, last = header ∨
    (last.table = header.table ∧ ∀ other, Reports dump other offset → other = header)

theorem attributed_of_inPlace (dump : Text)
    (inPlace : ∀ header offset, Reports dump header offset → InPlace dump header offset) :
    Attributed dump := by
  constructor
  · refine (once_iff dump).mpr fun first second offset firstReports secondReports => ?_
    obtain ⟨last, isLast⟩ := firstReports.exists_headerBefore?
    rcases inPlace first offset firstReports last isLast with rfl | ⟨_, unique⟩
    · rcases inPlace second offset secondReports last isLast with same | ⟨_, unique⟩
      · exact same
      · exact unique last firstReports
    · exact (unique second secondReports).symm
  · intro row member offset isOffset
    obtain ⟨header, inDump, inHeader⟩ := List.mem_flatMap.mp member
    obtain ⟨column, inColumns, rfl⟩ := List.mem_map.mp inHeader
    have reports : Reports dump header offset := ⟨inDump, column, inColumns, isOffset⟩
    obtain ⟨last, isLast⟩ := reports.exists_headerBefore?
    rw [isLast, Option.map_some]
    rcases inPlace header offset reports last isLast with rfl | ⟨table, _⟩
    · rfl
    · rw [table]

/-- Every column is reported once and under its own table exactly if each is in place under every
header that reports it. -/
theorem attributed_iff (dump : Text) :
    Attributed dump ↔
      ∀ header offset, Reports dump header offset → InPlace dump header offset := by
  refine ⟨?_, attributed_of_inPlace dump⟩
  rintro ⟨once, own⟩ header offset reports last isLast
  refine Or.inr ⟨?_, fun other reportsToo => (once_iff dump).mp once _ _ _ reportsToo reports⟩
  obtain ⟨inDump, column, inHeader, isOffset⟩ := reports
  have table := own _ (mem_columns dump header column inDump inHeader) offset isOffset
  rw [Option.mem_def.mp isLast] at table
  exact Option.some.inj table

/-- The first statement has no body of its own, so that the column behind it is reported under both
tables. -/
theorem not_attributed_like :
    ¬ Attributed
      "CREATE TABLE \x60a\x60 LIKE \x60b\x60; CREATE TABLE \x60c\x60 (\x60x\x60 int AS (1))" :=
  fun attributed => absurd attributed.once (by decide +kernel)

/-- A report is right where the body of every header ends before the next header. -/
theorem attributed_of_ends (dump : Text)
    (ends : ∀ header ∈ headers dump, ∀ fragment ∈ TableBody.split header.statement,
      ∀ next ∈ headers dump, header.position < next.position →
        header.position + fragment.offset + fragment.text.length ≤ next.position) :
    Attributed dump := by
  refine attributed_of_inPlace dump fun header offset reports last isLast => Or.inl ?_
  obtain ⟨inDump, column, inHeader, isOffset⟩ := reports
  obtain ⟨lastIn, before⟩ := mem_of_headerBefore? dump offset last isLast
  obtain ⟨fragment, inBody, parsed⟩ := List.mem_filterMap.mp inHeader
  obtain ⟨position, isPosition, behind, within⟩ :=
    Column.exists_expressionOffset? _ _ column parsed
  rw [isOffset] at isPosition
  cases isPosition
  rcases eq_or_lt_of_headerBefore? dump offset last header isLast inDump (by omega) with same | less
  · exact same
  · have ended := ends header inDump fragment inBody last lastIn less
    omega

end DumpRestore.Dump
