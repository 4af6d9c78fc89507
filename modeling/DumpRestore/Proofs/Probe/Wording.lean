/-
This file reads the statements of probes as a server would, and says what they name. A statement is
a sequence of words, names in backticks, literals and other marks; the object that it creates,
alters, drops, fills or indexes follows one of four words. Read so, every statement that a probe may
ask names the throwaway object of the probe and nothing else, whatever characters are in the name of
a table or of a storage engine, or reads settings and names nothing.
-/

import DumpRestore.Proofs.Identifier
import DumpRestore.Proofs.Probe.Trials
import DumpRestore.Text.Blank

namespace DumpRestore

/-! ### Reading statements -/

namespace Sql

/-- A part of a statement: a word, a name in backticks, a literal in quotes, or another mark. -/
inductive Token where
  | word (text : Text)
  | name (text : Text)
  | literal (text : Text)
  | mark (character : Char)
deriving DecidableEq

/-- Where a reader stands: outside of quotes and behind the characters of a begun word, in a name or
a literal behind its first characters, or behind a backtick, which ends a name unless another
backtick follows. -/
inductive Place where
  | outside (word : Text)
  | inName (text : Text)
  | behindName (text : Text)
  | inLiteral (text : Text)
deriving DecidableEq

/-- The word that is finished, where one was begun. -/
def finished (word : Text) : List Token :=
  if word.isEmpty then [] else [.word word]

/-- What one more character outside of quotes finishes, and where the reader stands behind it. -/
def readOutside (word : Text) (character : Char) : List Token × Place :=
  if Text.isWordChar character then ([], .outside (word ++ [character]))
  else if character = '\x60' then (finished word, .inName [])
  else if character = '\x27' then (finished word, .inLiteral [])
  else if Text.isBlank character then (finished word, .outside [])
  else (finished word ++ [.mark character], .outside [])

/-- What one more character finishes, and where the reader stands behind it. -/
def readCharacter (character : Char) : Place → List Token × Place
  | .outside word => readOutside word character
  | .inName text =>
    ([], if character = '\x60' then .behindName text else .inName (text ++ [character]))
  | .behindName text =>
    if character = '\x60' then ([], .inName (text ++ [character]))
    else (.name text :: (readOutside [] character).1, (readOutside [] character).2)
  | .inLiteral text =>
    if character = '\x27' then ([.literal text], .outside [])
    else ([], .inLiteral (text ++ [character]))

/-- What is read of a text, and where the reader stands behind it. -/
def readFrom : Place → Text → List Token × Place
  | place, [] => ([], place)
  | place, character :: rest =>
    ((readCharacter character place).1 ++ (readFrom (readCharacter character place).2 rest).1,
      (readFrom (readCharacter character place).2 rest).2)

/-- What the end of a statement finishes. -/
def Place.atEnd : Place → List Token
  | .outside word => finished word
  | .behindName text => [.name text]
  | .inName _ | .inLiteral _ => []

/-- The tokens of a statement. -/
def tokens (sql : Text) : List Token :=
  (readFrom (.outside []) sql).1 ++ (readFrom (.outside []) sql).2.atEnd

/-- Whether a token is one of these words, in capitals or not. -/
def Token.isOneOf (keywords : List String) : Token → Bool
  | .word text => keywords.any fun keyword => text.map Char.toUpper == keyword.toList
  | _ => false

/-- The objects that a statement is about: what follows the words TABLE, FUNCTION, INTO and ON, with
the words of a condition left out. -/
def objects : List Token → List Token
  | [] => []
  | token :: rest =>
    if token.isOneOf ["TABLE", "FUNCTION", "INTO", "ON"] then
      (rest.dropWhile (Token.isOneOf ["IF", "NOT", "EXISTS"])).head?.toList ++ objects rest
    else objects rest

/-- What a statement begins with, and what the parts of its body begin with: the first token, and
the one behind each semicolon. -/
def beginnings : List Token → List Token
  | [] => []
  | token :: rest =>
    token :: (rest.zip rest.tail).filterMap fun (mark, next) =>
      if mark = .mark ';' then some next else none

/-- A statement that drops an object of some sort if there is one, and says nothing else. -/
def Drops (sort : String) (object : Token) (sql : Text) : Prop :=
  tokens sql = [.word "DROP", .word sort, .word "IF", .word "EXISTS", object]

/-- Whether a statement creates, alters or fills one object and does nothing else, or only reads. -/
def spares (object : Token) (sql : Text) : Bool :=
  match beginnings (tokens sql) with
  | [] => false
  | verb :: later =>
    later.all (Token.isOneOf ["FETCH", "END"]) &&
      (verb.isOneOf ["CREATE", "ALTER", "INSERT"] && decide (objects (tokens sql) = [object]) ||
        verb.isOneOf ["SELECT", "SHOW"] && (objects (tokens sql)).isEmpty)

/-! ### Texts in a row -/

theorem readFrom_append (place : Place) (first second : Text) :
    readFrom place (first ++ second) =
      ((readFrom place first).1 ++ (readFrom (readFrom place first).2 second).1,
        (readFrom (readFrom place first).2 second).2) := by
  induction first generalizing place with
  | nil => rfl
  | cons character first inductionHypothesis =>
    rw [List.cons_append, readFrom, inductionHypothesis, readFrom, List.append_assoc]

/-- A doubled name up to its closing backtick is read as the name. -/
theorem readFrom_double (begun name : Text) :
    readFrom (.inName begun) (Text.double '\x60' name ++ ['\x60']) =
      ([], .behindName (begun ++ name)) := by
  induction name generalizing begun with
  | nil =>
    rw [List.append_nil]
    rfl
  | cons character name inductionHypothesis =>
    by_cases backtick : character = '\x60'
    · subst backtick
      rw [Text.double_cons_self]
      have read := inductionHypothesis (begun ++ ['\x60'])
      rw [List.append_assoc] at read
      exact read
    · rw [Text.double_cons_of_ne _ _ _ backtick, List.cons_append, readFrom, readCharacter,
        if_neg backtick, inductionHypothesis, List.append_assoc]
      rfl

theorem readFrom_backquote (name : Text) :
    readFrom (.outside []) (Identifier.backquote name) = ([], .behindName name) :=
  readFrom_double [] name

/-- A text behind one that ends between two tokens. -/
theorem tokens_append (first second : Text) (read : List Token)
    (begins : readFrom (.outside []) first = (read, .outside [])) :
    tokens (first ++ second) = read ++ tokens second := by
  unfold tokens
  rw [readFrom_append, begins, List.append_assoc]

theorem tokens_backquote (name : Text) : tokens (Identifier.backquote name) = [.name name] := by
  unfold tokens
  rw [readFrom_backquote]
  rfl

/-- A blank ends a name. -/
theorem tokens_backquote_blank (name rest : Text) :
    tokens (Identifier.backquote name ++ ' ' :: rest) = .name name :: tokens rest := by
  unfold tokens
  rw [readFrom_append, readFrom_backquote]
  rfl

/-- Word characters go on with a word. -/
theorem readFrom_word (begun word : Text) (plain : ∀ character ∈ word, Text.isWordChar character) :
    readFrom (.outside begun) word = ([], .outside (begun ++ word)) := by
  induction word generalizing begun with
  | nil => rw [List.append_nil]; rfl
  | cons character word inductionHypothesis =>
    rw [readFrom, readCharacter, readOutside, if_pos (plain character List.mem_cons_self),
      inductionHypothesis _ fun other member => plain other (List.mem_cons_of_mem _ member),
      List.append_assoc]
    rfl

/-- A name that needs no backticks is one word. -/
theorem tokens_of_isPlain (name : Text) (plain : Identifier.isPlain name = true) :
    ∃ word, tokens name = [.word word] := by
  unfold tokens
  rcases (Identifier.isPlain_iff name).mp plain with isWord | ⟨word, isWord, rfl⟩
  · obtain ⟨first, rest, rfl⟩ := List.exists_cons_of_ne_nil isWord.1
    rw [readFrom_word [] _ isWord.2]
    exact ⟨first :: rest, rfl⟩
  · obtain ⟨first, rest, rfl⟩ := List.exists_cons_of_ne_nil isWord.1
    rw [readFrom_append, readFrom_word [] _ isWord.2]
    exact ⟨first :: rest, rfl⟩

/-! ### Statements about one object -/

/-- A statement without semicolons begins once. -/
theorem beginnings_cons (verb : Token) (rest : List Token) (whole : .mark ';' ∉ rest) :
    beginnings (verb :: rest) = [verb] := by
  rw [beginnings, List.filterMap_eq_nil_iff.mpr]
  rintro ⟨mark, next⟩ member
  refine if_neg fun semicolon => whole ?_
  rw [← semicolon]
  exact (List.of_mem_zip member).1

/-- Tokens in front of which no object stands do not matter. -/
theorem objects_append (skipped rest : List Token)
    (skips : skipped.all fun token => !token.isOneOf ["TABLE", "FUNCTION", "INTO", "ON"]) :
    objects (skipped ++ rest) = objects rest := by
  induction skipped with
  | nil => rfl
  | cons token skipped inductionHypothesis =>
    rw [List.all_cons, Bool.and_eq_true, Bool.not_eq_true'] at skips
    rw [List.cons_append, objects, skips.1]
    exact inductionHypothesis skips.2

theorem objects_named (keyword : Token) (name : Text) (rest : List Token)
    (names : keyword.isOneOf ["TABLE", "FUNCTION", "INTO", "ON"]) :
    objects (keyword :: .name name :: rest) = .name name :: objects rest := by
  rw [objects, if_pos names]
  rfl

/-- A statement that names an object behind its verb and a keyword, and no other object behind
that, changes the object. -/
theorem spares_named (verb keyword : Token) (skipped : List Token) (name lead behind : Text)
    (leads : readFrom (.outside []) lead = (verb :: skipped ++ [keyword], .outside []))
    (changes : verb.isOneOf ["CREATE", "ALTER", "INSERT"])
    (skips : (verb :: skipped).all fun token =>
      !token.isOneOf ["TABLE", "FUNCTION", "INTO", "ON"])
    (names : keyword.isOneOf ["TABLE", "FUNCTION", "INTO", "ON"])
    (whole : .mark ';' ∉ skipped ++ keyword :: tokens behind)
    (ends : objects (tokens behind) = []) :
    spares (.name name) (lead ++ Identifier.backquote name ++ ' ' :: behind) = true := by
  have reads : tokens (lead ++ Identifier.backquote name ++ ' ' :: behind) =
      verb :: skipped ++ keyword :: .name name :: tokens behind := by
    rw [List.append_assoc, tokens_append _ _ _ leads, tokens_backquote_blank, List.append_assoc]
    rfl
  have begins :
      beginnings (verb :: skipped ++ keyword :: .name name :: tokens behind) = [verb] := by
    refine beginnings_cons verb _ ?_
    simpa using whole
  have changed : objects (verb :: skipped ++ keyword :: .name name :: tokens behind) =
      [.name name] := by
    rw [objects_append _ _ skips, objects_named _ _ _ names, ends]
  unfold spares
  rw [reads, begins]
  dsimp only
  rw [changed, changes]
  simp

/-- Another object is not spared, and neither is what comes behind a semicolon. -/
example :
    spares (.name "a") "ALTER TABLE \x60a\x60 ADD c int" = true ∧
      spares (.name "a") "ALTER TABLE \x60b\x60 ADD c int" = false ∧
      spares (.name "a") "ALTER TABLE \x60a\x60 ADD c int; DROP TABLE b" = false := by
  decide

end Sql

namespace Inspector

open Sql

/-! ### The statements of probes -/

theorem drops_dropTable (name : Text) :
    Drops "TABLE" (.name name) (dropTable (Identifier.backquote name)) := by
  have leads : readFrom (.outside []) "DROP TABLE IF EXISTS " =
      ([.word "DROP", .word "TABLE", .word "IF", .word "EXISTS"], .outside []) := by decide
  unfold Drops dropTable
  rw [tokens_append _ _ _ leads, tokens_backquote]
  rfl

theorem drops_dropRoutine : Drops "FUNCTION" (.word routineName) dropRoutine := by
  unfold Drops
  decide

theorem spares_routineTrials :
    ∀ statement ∈ routineTrials, spares (.word routineName) statement.sql = true := by
  decide

theorem readFrom_alterTable : readFrom (.outside []) "ALTER TABLE " =
    ([.word "ALTER", .word "TABLE"], .outside []) := by
  decide

section ColumnTrials

variable (name : Text)

theorem spares_addPersistentColumn :
    spares (.name name) (addPersistentColumn (Identifier.backquote name)) = true := by
  unfold addPersistentColumn
  rw [List.append_assoc _ " ADD `persistent_column` VARCHAR(17) AS ('persistent_column') ".toList]
  exact spares_named (.word "ALTER") (.word "TABLE") [] name _ _ readFrom_alterTable (by decide)
    (by decide) (by decide) (by decide) (by decide)

theorem spares_addNotNullColumn :
    spares (.name name) (addNotNullColumn (Identifier.backquote name)) = true := by
  unfold addNotNullColumn
  rw [List.append_assoc _ " ADD `virtual_column_not_null` VARCHAR(17) ".toList]
  exact spares_named (.word "ALTER") (.word "TABLE") [] name _ _ readFrom_alterTable (by decide)
    (by decide) (by decide) (by decide) (by decide)

theorem spares_insertIgnore :
    spares (.name name) (insertIgnore (Identifier.backquote name)) = true := by
  have leads : readFrom (.outside []) "INSERT IGNORE INTO " =
      ([.word "INSERT", .word "IGNORE", .word "INTO"], .outside []) := by decide
  exact spares_named (.word "INSERT") (.word "INTO") [.word "IGNORE"] name _ _ leads (by decide)
    (by decide) (by decide) (by decide) (by decide)

theorem spares_createIndex :
    spares (.name name) (createIndex (Identifier.backquote name)) = true := by
  have leads : readFrom (.outside [])
      ("CREATE INDEX ".toList ++ Identifier.backquote indexName ++ " ON ".toList) =
      ([.word "CREATE", .word "INDEX", .name indexName, .word "ON"], .outside []) := by decide
  unfold createIndex
  rw [List.append_assoc _ " (virtual_column) ".toList]
  exact spares_named (.word "CREATE") (.word "ON") [.word "INDEX", .name indexName] name _ _ leads
    (by decide) (by decide) (by decide) (by decide) (by decide)

/-- A storage engine is one word, so that it names no object and ends no statement. -/
theorem objects_engine (engine : Text) (valid : IsEngine engine) :
    objects (tokens (if engine.isEmpty then [] else " ENGINE=" ++ engine)) = [] ∧
      .mark ';' ∉ tokens (if engine.isEmpty then [] else " ENGINE=" ++ engine) := by
  have leads : readFrom (.outside []) " ENGINE=" =
      ([.word "ENGINE", .mark '='], .outside []) := by decide
  cases engine with
  | nil => decide
  | cons first rest =>
    have plain : Identifier.isPlain (first :: rest) = true := valid.resolve_left (by simp)
    obtain ⟨word, read⟩ := tokens_of_isPlain _ plain
    rw [if_neg (by simp), tokens_append _ _ _ leads, read]
    constructor
    · rw [objects_append _ _ (by decide)]
      simp [objects]
    · simp

/-- The column that a throwaway table is created with. -/
def tableColumns : Text :=
  "(`virtual_column` varchar(17) GENERATED ALWAYS AS ('virtual_column') " ++
    "VIRTUAL COMMENT 'virtual_column')"

theorem spares_createTable (engine : Text) (valid : IsEngine engine) :
    spares (.name name) (createTable (Identifier.backquote name) engine) = true := by
  have leads : readFrom (.outside []) "CREATE TABLE " =
      ([.word "CREATE", .word "TABLE"], .outside []) := by decide
  have columns : readFrom (.outside []) tableColumns =
      ((readFrom (.outside []) tableColumns).1, .outside []) := by decide
  have spaced : " (`virtual_column` varchar(17) GENERATED ALWAYS AS ('virtual_column') ".toList ++
      "VIRTUAL COMMENT 'virtual_column')".toList = ' ' :: tableColumns := by decide
  have clear : ((readFrom (.outside []) tableColumns).1.all fun token =>
      !token.isOneOf ["TABLE", "FUNCTION", "INTO", "ON"]) = true := by decide
  have whole : .mark ';' ∉ (readFrom (.outside []) tableColumns).1 := by decide
  obtain ⟨none, single⟩ := objects_engine engine valid
  unfold createTable
  dsimp only
  generalize (if engine.isEmpty then [] else " ENGINE=" ++ engine : Text) = clause at none single ⊢
  rw [List.append_assoc _ _ "VIRTUAL COMMENT 'virtual_column')".toList, spaced,
    List.append_assoc _ (' ' :: tableColumns)]
  generalize tableColumns = opening at columns clear whole ⊢
  refine spares_named (.word "CREATE") (.word "TABLE") [] name _ (opening ++ clause) leads
    (by decide) (by decide) (by decide) ?_ ?_
  · rw [tokens_append _ _ _ columns]
    simp [whole, single]
  · rw [tokens_append _ _ _ columns, objects_append _ _ clear, none]

theorem spares_columnTrials (engine : Text) (valid : IsEngine engine) :
    ∀ statement ∈ columnTrials (Identifier.backquote name) engine,
      spares (.name name) statement.sql = true := by
  simp only [columnTrials, List.mem_map, List.mem_cons, List.not_mem_nil, or_false]
  rintro _ ⟨sql, rfl | rfl | rfl | rfl | rfl, rfl⟩
  · exact spares_createTable name engine valid
  · exact spares_addPersistentColumn name
  · exact spares_addNotNullColumn name
  · exact spares_insertIgnore name
  · exact spares_createIndex name

end ColumnTrials

end Inspector

end DumpRestore
