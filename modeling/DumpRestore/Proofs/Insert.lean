/-
This file says when an INSERT statement is taken to write to generated columns. A statement with a
quoted table and a column list is judged by the names in the list alone. A statement without a
list counts as writing to all of them where its table is quoted; where the table is bare, text in
the rows can pass for a list, and the file states exactly when it does and what follows from it.
The backtick is the character 0x60.
-/

import DumpRestore.Insert
import DumpRestore.Proofs.Identifier
import DumpRestore.Proofs.Text.Basic
import DumpRestore.Proofs.Text.Words

namespace DumpRestore.Insert

/-! ### The table -/

/-- A statement is read from the table on where that part of it can be read. -/
theorem columnList?_insert_into (text : Text) (result : Option Text)
    (reads : afterInto? (' ' :: text) = some result) :
    columnList? ("INSERT INTO " ++ text) = some result := by
  have into : (Text.keyword? "into" ('I' :: ("NTO " ++ text))).bind afterInto? = some result :=
    reads
  have found : findInto? ('I' :: ("NTO " ++ text)) = some result := by
    rw [findInto?, into]
  exact found

/-- No statement follows a quoted table before its closing backtick. -/
theorem afterQuotedTable?_append (begun : Bool) (name rest : Text) (plain : '\x60' ∉ name) :
    afterQuotedTable? begun (name ++ rest) = afterQuotedTable? (begun || !name.isEmpty) rest := by
  induction name generalizing begun with
  | nil => rw [List.isEmpty_nil, Bool.not_true, Bool.or_false, List.nil_append]
  | cons character name inductionHypothesis =>
    have other : (character == '\x60') = false :=
      beq_false_of_ne fun same => plain (same ▸ List.mem_cons_self)
    rw [List.cons_append, afterQuotedTable?, other, Bool.and_false, if_neg Bool.false_ne_true,
      inductionHypothesis true fun member => plain (List.mem_cons_of_mem character member),
      Bool.true_or, List.isEmpty_cons, Bool.not_false, Bool.or_true]

theorem afterInto?_of_skipBlanks (text inside : Text) (result : Option Text)
    (starts : Text.skipBlanks text = '\x60' :: inside)
    (reads : afterQuotedTable? false inside = some result) : afterInto? text = some result := by
  unfold afterInto?
  simp only [starts, reads]

/-- What follows a quoted table decides what follows INTO. -/
theorem afterInto?_backquote (table rest : Text) (result : Option Text) (nonempty : table ≠ [])
    (plain : '\x60' ∉ table) (reads : afterTable? rest = some result) :
    afterInto? (' ' :: Identifier.backquote table ++ rest) = some result := by
  have quoted : afterQuotedTable? false (table ++ '\x60' :: rest) = some result := by
    have begun : (false || !table.isEmpty) = true := by
      cases table with
      | nil => exact absurd rfl nonempty
      | cons _ _ => rfl
    rw [afterQuotedTable?_append false table _ plain, begun, afterQuotedTable?, Bool.true_and,
      if_pos (beq_self_eq_true _), reads]
  rw [Identifier.backquote_of_not_mem table plain, List.cons_append, List.cons_append,
    List.cons_append, List.append_assoc, List.singleton_append]
  exact afterInto?_of_skipBlanks _ _ result rfl quoted

/-- The longest bare table counts, so text without a parenthesis in front of it changes nothing. -/
theorem afterBareTable?_append (lead text : Text) (result : Option Text) (flat : '(' ∉ lead)
    (reads : afterBareTable? text = some result) :
    afterBareTable? (lead ++ text) = some result := by
  induction lead with
  | nil => exact reads
  | cons character lead inductionHypothesis =>
    have other : character ≠ '(' := fun same => flat (same ▸ List.mem_cons_self)
    rw [List.cons_append, afterBareTable?, if_neg other,
      inductionHypothesis fun member => flat (List.mem_cons_of_mem character member)]

/-- What follows INTO is a bare table where a word stands there. -/
theorem afterInto?_word (table rest : Text) (nonempty : table ≠ [])
    (word : ∀ character ∈ table, Text.isWordChar character = true) :
    afterInto? (' ' :: table ++ rest) = afterBareTable? (' ' :: table ++ rest) := by
  cases table with
  | nil => exact absurd rfl nonempty
  | cons character table =>
    have inWord := word character List.mem_cons_self
    have visible := Text.isBlank_of_isWordChar character inWord
    have skipped : Text.skipBlanks (' ' :: (character :: table) ++ rest) =
        character :: (table ++ rest) := by
      show Text.skipBlanks (character :: (table ++ rest)) = _
      rw [Text.skipBlanks, List.dropWhile_cons, if_neg (by rw [visible]; exact Bool.false_ne_true)]
    unfold afterInto?
    rw [skipped]
    split
    · rename_i equal
      injection equal with same _
      exact absurd same (Text.ne_of_isWordChar '\x60' character rfl inWord)
    · rfl

/-! ### The column list -/

/-- The list ends at the first closing parenthesis after which the values follow. -/
theorem listBeforeValues?_append (begun : Bool) (columns after : Text)
    (nonempty : begun = true ∨ columns ≠ []) (flat : ')' ∉ columns)
    (values : hasValues after = true) :
    listBeforeValues? begun (columns ++ ')' :: after) = some columns := by
  induction columns generalizing begun with
  | nil =>
    have started : begun = true := nonempty.resolve_right fun different => different rfl
    rw [started, List.nil_append, listBeforeValues?, values]
    rfl
  | cons character columns inductionHypothesis =>
    have other : (character == ')') = false :=
      beq_false_of_ne fun same => flat (same ▸ List.mem_cons_self)
    rw [List.cons_append, listBeforeValues?, other, Bool.and_false, Bool.false_and,
      if_neg Bool.false_ne_true,
      inductionHypothesis true (Or.inl rfl) fun member => flat (List.mem_cons_of_mem _ member)]
    rfl

/-- Rows that read as a column list: the shortest stretch at their start that is not empty and that
a closing parenthesis, VALUES and something more follow. -/
structure ReadsAsList (rows columns : Text) : Prop where
  nonempty : columns ≠ []
  closed : ∃ after, rows = columns ++ ')' :: after ∧ hasValues after = true
  shortest : ∀ shorter after, shorter ≠ [] → rows = shorter ++ ')' :: after →
    hasValues after = true → columns.length ≤ shorter.length

theorem listBeforeValues?_eq_some (begun : Bool) (rows columns : Text)
    (found : listBeforeValues? begun rows = some columns) :
    (begun = true ∨ columns ≠ []) ∧ (∃ after, rows = columns ++ ')' :: after ∧
      hasValues after = true) ∧ ∀ shorter after, begun = true ∨ shorter ≠ [] →
      rows = shorter ++ ')' :: after → hasValues after = true →
      columns.length ≤ shorter.length := by
  induction rows generalizing begun columns with
  | nil => cases found
  | cons character rest inductionHypothesis =>
    rw [listBeforeValues?] at found
    split at found
    · rename_i closes
      simp only [Bool.and_eq_true, beq_iff_eq] at closes
      obtain ⟨⟨started, rfl⟩, values⟩ := closes
      cases found
      exact ⟨Or.inl started, ⟨rest, rfl, values⟩, fun _ _ _ _ _ => Nat.zero_le _⟩
    · rename_i open_
      obtain ⟨further, foundFurther, rfl⟩ := Option.map_eq_some_iff.mp found
      obtain ⟨_, ⟨after, rfl, values⟩, shortest⟩ := inductionHypothesis true further foundFurther
      refine ⟨Or.inr (List.cons_ne_nil _ _), ⟨after, rfl, values⟩, ?_⟩
      intro shorter other nonempty equal otherValues
      cases shorter with
      | nil =>
        have started : begun = true := nonempty.resolve_right fun different => different rfl
        injection equal with same tail
        subst same
        rw [← tail] at otherValues
        rw [started, otherValues] at open_
        exact absurd rfl open_
      | cons first shorter =>
        injection equal with _ tail
        exact Nat.succ_le_succ (shortest shorter other (Or.inl rfl) tail otherValues)

theorem listBeforeValues?_eq_none (begun : Bool) (rows columns after : Text)
    (missing : listBeforeValues? begun rows = none) (nonempty : begun = true ∨ columns ≠ [])
    (equal : rows = columns ++ ')' :: after) : hasValues after = false := by
  induction rows generalizing begun columns with
  | nil => cases columns <;> cases equal
  | cons character rest inductionHypothesis =>
    rw [listBeforeValues?] at missing
    split at missing
    · cases missing
    · rename_i open_
      cases columns with
      | nil =>
        have started : begun = true := nonempty.resolve_right fun different => different rfl
        injection equal with same tail
        rw [started, same, tail] at open_
        exact Bool.eq_false_iff.mpr fun values => open_ (by rw [values]; rfl)
      | cons first columns =>
        injection equal with _ tail
        exact inductionHypothesis true columns (Option.map_eq_none_iff.mp missing) (Or.inl rfl) tail

/-- The list that the rows read as is the list that is found. -/
theorem listBeforeValues?_eq_some_iff (rows columns : Text) :
    listBeforeValues? false rows = some columns ↔ ReadsAsList rows columns := by
  constructor
  · intro found
    obtain ⟨nonempty, closed, shortest⟩ := listBeforeValues?_eq_some false rows columns found
    exact ⟨nonempty.resolve_left Bool.false_ne_true, closed,
      fun shorter after different => shortest shorter after (Or.inr different)⟩
  · intro reads
    obtain ⟨after, equal, values⟩ := reads.closed
    cases result : listBeforeValues? false rows with
    | none =>
      have none_ := listBeforeValues?_eq_none false rows columns after result
        (Or.inr reads.nonempty) equal
      rw [values] at none_
      cases none_
    | some found =>
      obtain ⟨nonempty, ⟨other, otherEqual, otherValues⟩, shortest⟩ :=
        listBeforeValues?_eq_some false rows found result
      have atMost := shortest columns after (Or.inr reads.nonempty) equal values
      have atLeast := reads.shortest found other (nonempty.resolve_left Bool.false_ne_true)
        otherEqual otherValues
      rw [equal] at otherEqual
      exact congrArg some (List.append_inj_left otherEqual (by omega)).symm

theorem afterTable?_of_skipBlanks (text inside columns : Text)
    (starts : Text.skipBlanks text = '(' :: inside)
    (listed : listBeforeValues? false inside = some columns) :
    afterTable? text = some (some columns) := by
  unfold afterTable?
  simp only [starts, listed]

theorem afterTable?_list (columns rest : Text) (nonempty : columns ≠ []) (flat : ')' ∉ columns) :
    afterTable? (" (" ++ columns ++ ") VALUES " ++ rest) = some (some columns) := by
  have values : hasValues (" VALUES " ++ rest) = true := rfl
  have listed := listBeforeValues?_append false columns (" VALUES " ++ rest) (Or.inr nonempty) flat
    values
  rw [List.append_assoc, List.append_assoc]
  exact afterTable?_of_skipBlanks _ _ columns rfl listed

/-! ### Statements without a column list -/

/-- A statement without a column list; the rows start behind their first parenthesis. -/
def unlisted (table rows : Text) : Text :=
  "INSERT INTO " ++ table ++ " VALUES (" ++ rows

theorem columnList?_unlisted_backquote (table rows : Text) (nonempty : table ≠ [])
    (plain : '\x60' ∉ table) :
    columnList? (unlisted (Identifier.backquote table) rows) = some none := by
  have values : afterTable? (" VALUES (" ++ rows) = some none := rfl
  have reads := afterInto?_backquote table (" VALUES (" ++ rows) none nonempty plain values
  unfold unlisted
  rw [List.append_assoc, List.append_assoc]
  exact columnList?_insert_into _ none reads

/-- The longest bare table before VALUES reaches up to the rows, which are a list where they read as
one. Otherwise the longest table after which a statement follows ends before VALUES. -/
theorem afterBareTable?_values (rows : Text) :
    afterBareTable? (" VALUES (" ++ rows) = some (listBeforeValues? false rows) := by
  cases listed : listBeforeValues? false rows with
  | some columns =>
    simp [afterBareTable?, afterTable?, Text.skipBlanks, Text.isBlank, Text.isBlankCode, listed]
  | none =>
    simp [afterBareTable?, afterTable?, hasValues, Text.skipBlanks, Text.keyword?, Text.isBlank,
      Text.isBlankCode, Text.isFormOf, listed]

theorem columnList?_unlisted_word (table rows : Text) (nonempty : table ≠ [])
    (word : ∀ character ∈ table, Text.isWordChar character = true) :
    columnList? (unlisted table rows) = some (listBeforeValues? false rows) := by
  have flat : '(' ∉ ' ' :: table := by
    intro member
    rcases List.mem_cons.mp member with same | inTable
    · cases same
    · exact Text.not_mem_of_isWordChar '(' table rfl word inTable
  have reads : afterInto? (' ' :: table ++ (" VALUES (" ++ rows)) =
      some (listBeforeValues? false rows) := by
    rw [afterInto?_word table _ nonempty word]
    exact afterBareTable?_append (' ' :: table) _ _ flat (afterBareTable?_values rows)
  unfold unlisted
  rw [List.append_assoc, List.append_assoc]
  exact columnList?_insert_into _ _ reads

/-- Every statement with a quoted table and without a column list is taken to write to generated
columns, whatever its rows hold. With a bare table the rows decide: the statement is taken to
write to them exactly if the rows read as no column list, or if the list they read as is blank or
names a generated column. -/
theorem writesTo?_unlisted (table rows : Text) (generated : List Text) (nonempty : table ≠ [])
    (plain : '\x60' ∉ table) :
    writesTo? generated (unlisted (Identifier.backquote table) rows) = some true ∧
      ((∀ character ∈ table, Text.isWordChar character = true) →
        ∃ answer, writesTo? generated (unlisted table rows) = some answer ∧
          (answer = true ↔ ∀ columns, ReadsAsList rows columns →
            ∀ names ∈ columnNames? columns, ∃ name ∈ names, name ∈ generated)) := by
  constructor
  · unfold writesTo?
    rw [columnList?_unlisted_backquote table rows nonempty plain]
    rfl
  · intro word
    unfold writesTo?
    rw [columnList?_unlisted_word table rows nonempty word]
    refine ⟨_, rfl, ?_⟩
    simp only [← listBeforeValues?_eq_some_iff]
    cases listBeforeValues? false rows with
    | none => exact iff_of_true rfl fun _ reads => by cases reads
    | some found =>
      rw [Option.bind_some]
      constructor
      · intro answer columns same names member
        cases same
        rw [Option.mem_def.mp member] at answer
        obtain ⟨name, inNames, inGenerated⟩ := List.any_eq_true.mp answer
        exact ⟨name, inNames, List.elem_iff.mp inGenerated⟩
      · intro each
        cases named : columnNames? found with
        | none => rfl
        | some names =>
          obtain ⟨name, inNames, inGenerated⟩ := each found rfl names named
          exact List.any_eq_true.mpr ⟨name, inNames, List.elem_iff.mpr inGenerated⟩

/-- The two sides at one table: data that hold a closing parenthesis and VALUES do no harm behind
the quoted table, and decide behind the bare one. -/
theorem writesTo?_unlisted_orders :
    ("orders" : Text) ≠ [] ∧ '\x60' ∉ ("orders" : Text) ∧
      (∀ character ∈ ("orders" : Text), Text.isWordChar character = true) ∧
      writesTo? ["total"] (unlisted (Identifier.backquote "orders") "'a) values b')") = some true ∧
      ∃ answer, writesTo? ["total"] (unlisted "orders" "'a) values b')") = some answer ∧
        (answer = true ↔ ∀ columns, ReadsAsList "'a) values b')" columns →
          ∀ names ∈ columnNames? columns, ∃ name ∈ names, name ∈ (["total"] : List Text)) := by
  have word : ∀ character ∈ ("orders" : Text), Text.isWordChar character = true :=
    List.all_eq_true.mp rfl
  have both := writesTo?_unlisted "orders" "'a) values b')" ["total"] (by decide) (by decide)
  exact ⟨by decide, by decide, word, both.1, both.2 word⟩

/-- Text in the rows that passes for a column list hides that a bare table has none. -/
theorem writesTo?_unlisted_text :
    ("t" : Text) ≠ [] ∧ (∀ character ∈ ("t" : Text), Text.isWordChar character = true) ∧
      writesTo? [] (unlisted "t" "'a) values b')") = some false :=
  ⟨by decide, List.all_eq_true.mp rfl, by decide⟩

/-! ### Names in the column list -/

/-- Quoted names with separators between them are one quoted text, where the separators end and
begin a name. -/
theorem join_map_backquote (columns : List Text) (nonempty : columns ≠ [])
    (plain : ∀ column ∈ columns, '\x60' ∉ column) :
    Text.join ", " (columns.map Identifier.backquote) =
      '\x60' :: Text.join "\x60, \x60" columns ++ ['\x60'] := by
  induction columns with
  | nil => exact absurd rfl nonempty
  | cons column columns inductionHypothesis =>
    have quoted := Identifier.backquote_of_not_mem column (plain column List.mem_cons_self)
    cases columns with
    | nil => exact quoted
    | cons second columns =>
      have further := inductionHypothesis (List.cons_ne_nil second columns)
        fun other member => plain other (List.mem_cons_of_mem column member)
      show Identifier.backquote column ++ [',', ' '] ++
        Text.join ", " ((second :: columns).map Identifier.backquote) = '\x60' :: (column ++
          ['\x60', ',', ' ', '\x60'] ++ Text.join "\x60, \x60" (second :: columns)) ++ ['\x60']
      rw [further, quoted]
      simp only [List.cons_append, List.append_assoc, List.nil_append]

theorem trim_backquoted (inside : Text) :
    Text.trim ('\x60' :: inside ++ ['\x60']) = '\x60' :: inside ++ ['\x60'] := by
  show Text.dropTrailingBlanks ('\x60' :: inside ++ ['\x60']) = _
  rw [Text.dropTrailingBlanks, List.reverse_append]
  show ('\x60' :: ('\x60' :: inside).reverse).reverse = _
  rw [List.reverse_cons, List.reverse_reverse]

theorem dropOuterBackticks_backquoted (inside : Text) (nonempty : inside ≠ []) :
    dropOuterBackticks ('\x60' :: inside ++ ['\x60']) = inside := by
  have leading : ('\x60' :: inside ++ ['\x60']).takeWhile (· != '\x60') = [] := rfl
  have trailing : ('\x60' :: inside ++ ['\x60']).reverse.takeWhile (· != '\x60') = [] := by
    rw [List.reverse_append]
    rfl
  have long : 3 ≤ ('\x60' :: inside ++ ['\x60']).length := by
    have positive := List.length_pos_iff.mpr nonempty
    rw [List.length_append, List.length_cons, List.length_singleton]
    omega
  unfold dropOuterBackticks
  simp only [leading, trailing, List.length_nil, List.drop_zero, List.reverse_nil, Nat.sub_zero,
    List.take_length]
  rw [if_pos long, List.nil_append, List.append_nil, List.cons_append, List.drop_one,
    List.tail_cons, List.dropLast_concat]

theorem splitQuoted_cons_of_ne (character : Char) (rest name : Text) (names : List Text)
    (other : character ≠ '\x60') (further : splitQuoted 0 rest = name :: names) :
    splitQuoted 0 (character :: rest) = (character :: name) :: names := by
  have noSeparator : afterSeparator? (character :: rest) = none := by
    unfold afterSeparator?
    split
    · rename_i equal
      injection equal with same _
      exact absurd same other
    · rfl
  rw [splitQuoted, noSeparator, further]

theorem splitQuoted_append (name rest : Text) (plain : '\x60' ∉ name) :
    splitQuoted 0 (name ++ '\x60' :: ',' :: ' ' :: '\x60' :: rest) =
      name :: splitQuoted 0 rest := by
  induction name with
  | nil =>
    have separator : afterSeparator? ('\x60' :: ',' :: ' ' :: '\x60' :: rest) = some rest := rfl
    have owed : (',' :: ' ' :: '\x60' :: rest).length - rest.length = 3 := by
      simp only [List.length_cons]
      omega
    rw [List.nil_append, splitQuoted, separator]
    show [] :: splitQuoted ((',' :: ' ' :: '\x60' :: rest).length - rest.length)
      (',' :: ' ' :: '\x60' :: rest) = _
    rw [owed]
    rfl
  | cons character name inductionHypothesis =>
    exact splitQuoted_cons_of_ne character _ name _
      (fun same => plain (same ▸ List.mem_cons_self))
      (inductionHypothesis fun member => plain (List.mem_cons_of_mem character member))

theorem splitQuoted_of_not_mem (name : Text) (plain : '\x60' ∉ name) :
    splitQuoted 0 name = [name] := by
  induction name with
  | nil => rfl
  | cons character name inductionHypothesis =>
    exact splitQuoted_cons_of_ne character name name []
      (fun same => plain (same ▸ List.mem_cons_self))
      (inductionHypothesis fun member => plain (List.mem_cons_of_mem character member))

/-- Names without backticks are found between the separators that join them. -/
theorem splitQuoted_join (columns : List Text) (nonempty : columns ≠ [])
    (plain : ∀ column ∈ columns, '\x60' ∉ column) :
    splitQuoted 0 (Text.join "\x60, \x60" columns) = columns := by
  induction columns with
  | nil => exact absurd rfl nonempty
  | cons column columns inductionHypothesis =>
    have first := plain column List.mem_cons_self
    cases columns with
    | nil => exact splitQuoted_of_not_mem column first
    | cons second columns =>
      have further := inductionHypothesis (List.cons_ne_nil second columns)
        fun other member => plain other (List.mem_cons_of_mem column member)
      show splitQuoted 0 (column ++ ['\x60', ',', ' ', '\x60'] ++
        Text.join "\x60, \x60" (second :: columns)) = _
      rw [List.append_assoc]
      exact (splitQuoted_append column _ first).trans (congrArg (column :: ·) further)

/-- A list in which a name is quoted is cut at separators of backtick, comma and backtick. -/
theorem columnNames?_of_elem (columns : Text) (trimmed : Text.trim columns = columns)
    (quoted : columns.elem '\x60' = true) :
    columnNames? columns =
      some ((splitQuoted 0 (dropOuterBackticks columns)).map Identifier.unquote) := by
  unfold columnNames?
  rw [trimmed]
  cases columns with
  | nil => cases quoted
  | cons character columns => exact if_pos quoted

theorem columnNames?_backquoted (columns : List Text) (nonempty : columns ≠ [])
    (each : ∀ column ∈ columns, column ≠ [] ∧ '\x60' ∉ column) :
    columnNames? (Text.join ", " (columns.map Identifier.backquote)) = some columns := by
  have plain := fun column member => (each column member).2
  have inside : Text.join "\x60, \x60" columns ≠ [] := by
    cases columns with
    | nil => exact absurd rfl nonempty
    | cons column columns =>
      exact Text.join_ne_nil _ column columns (each column List.mem_cons_self).1
  have unquoted : columns.map Identifier.unquote = columns := by
    refine (List.map_congr_left fun column member => ?_).trans (List.map_id columns)
    exact Identifier.unquote_of_not_mem column (plain column member)
  rw [join_map_backquote columns nonempty plain, columnNames?_of_elem _ (trim_backquoted _) rfl,
    dropOuterBackticks_backquoted _ inside, splitQuoted_join columns nonempty plain, unquoted]

/-! ### Statements with a column list -/

/-- A statement with a quoted table and a list of quoted columns; the rows start behind VALUES and
a blank. -/
def listed (table : Text) (columns : List Text) (rows : Text) : Text :=
  "INSERT INTO " ++ Identifier.backquote table ++ " (" ++
    Text.join ", " (columns.map Identifier.backquote) ++ ") VALUES " ++ rows

theorem not_mem_join_map_backquote (columns : List Text)
    (each : ∀ column ∈ columns, '\x60' ∉ column ∧ ')' ∉ column) :
    ')' ∉ Text.join ", " (columns.map Identifier.backquote) := by
  intro member
  rcases Text.mem_join _ _ _ member with ⟨quoted, quotedMember, inQuoted⟩ | inSeparator
  · obtain ⟨column, columnMember, rfl⟩ := List.mem_map.mp quotedMember
    obtain ⟨plain, flat⟩ := each column columnMember
    rw [Identifier.backquote_of_not_mem column plain] at inQuoted
    have inColumn : ')' ∈ column := by
      simpa using inQuoted
    exact flat inColumn
  · revert inSeparator
    decide

theorem columnList?_listed (table rows : Text) (columns : List Text) (nonempty : table ≠ [])
    (plain : '\x60' ∉ table) (named : columns ≠ [])
    (each : ∀ column ∈ columns, column ≠ [] ∧ '\x60' ∉ column ∧ ')' ∉ column) :
    columnList? (listed table columns rows) =
      some (some (Text.join ", " (columns.map Identifier.backquote))) := by
  have inside : Text.join ", " (columns.map Identifier.backquote) ≠ [] := by
    cases columns with
    | nil => exact absurd rfl named
    | cons column columns => exact Text.join_ne_nil _ _ _ (List.cons_ne_nil _ _)
  have flat := not_mem_join_map_backquote columns fun column member => (each column member).2
  have reads := afterInto?_backquote table _ _ nonempty plain (afterTable?_list _ rows inside flat)
  unfold listed
  have assoc (first second third fourth fifth sixth : Text) :
      first ++ second ++ third ++ fourth ++ fifth ++ sixth =
        first ++ (second ++ (third ++ fourth ++ fifth ++ sixth)) := by
    simp only [List.append_assoc]
  rw [assoc]
  exact columnList?_insert_into _ _ reads

/-- A statement with a list of quoted columns is taken to write to generated columns exactly if one
of the listed columns is generated, whatever its rows hold. -/
theorem writesTo?_listed (table rows : Text) (columns generated : List Text) (nonempty : table ≠ [])
    (plain : '\x60' ∉ table) (named : columns ≠ [])
    (each : ∀ column ∈ columns, column ≠ [] ∧ '\x60' ∉ column ∧ ')' ∉ column) :
    writesTo? generated (listed table columns rows) =
      some (decide (∃ column ∈ columns, column ∈ generated)) := by
  have names := columnNames?_backquoted columns named fun column member =>
    ⟨(each column member).1, (each column member).2.1⟩
  unfold writesTo?
  rw [columnList?_listed table rows columns nonempty plain named each, Option.map_some,
    Option.bind_some, names]
  refine congrArg some ?_
  rw [Bool.eq_iff_iff, decide_eq_true_iff]
  exact List.any_eq_true.trans (exists_congr fun column => and_congr_right fun _ => List.elem_iff)

/-- Columns named like SQL, with commas and parentheses, before rows that read as another list. -/
theorem writesTo?_listed_orders :
    ("orders" : Text) ≠ [] ∧ '\x60' ∉ ("orders" : Text) ∧ (["a, (b", "values"] : List Text) ≠ [] ∧
      (∀ column ∈ (["a, (b", "values"] : List Text),
        column ≠ [] ∧ '\x60' ∉ column ∧ ')' ∉ column) ∧
      writesTo? ["values"] (listed "orders" ["a, (b", "values"] "(1, 2) values (3)") =
        some (decide (∃ column ∈ (["a, (b", "values"] : List Text),
          column ∈ (["values"] : List Text))) := by
  refine ⟨by decide, by decide, by decide, by decide, ?_⟩
  exact writesTo?_listed "orders" "(1, 2) values (3)" ["a, (b", "values"] ["values"] (by decide)
    (by decide) (by decide) (by decide)

end DumpRestore.Insert
