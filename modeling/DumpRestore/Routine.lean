/-
This file defines stored routines: their kinds, what a server supports of them, and the description
of a routine that is merged from its status and from the statement that creates it.
-/

import DumpRestore.Fault

namespace DumpRestore

/-- The kinds of stored routines. -/
inductive RoutineKind where
  | function
  | procedure
deriving Repr, DecidableEq

namespace RoutineKind

/-- The keyword of a kind. -/
def keyword : RoutineKind → Text
  | .function => "FUNCTION"
  | .procedure => "PROCEDURE"

/-- The name under which a server shows the statement that creates a routine of a kind. -/
def createColumn : RoutineKind → Text
  | .function => "Create Function"
  | .procedure => "Create Procedure"

/-- The kind with a keyword. -/
def ofKeyword? (text : Text) : Option RoutineKind :=
  [RoutineKind.function, RoutineKind.procedure].find? fun kind => kind.keyword == text

/-- The kind with a keyword, or the fault that there is none. -/
def ofKeyword (text : Text) : Except Fault RoutineKind :=
  match ofKeyword? text with
  | some kind => .ok kind
  | none => .error (.invalidRoutineKind text)

end RoutineKind

/-- What a server supports of stored routines. The state of binary logging is kept as the server
gives it where it is neither on nor off. -/
structure RoutineSupport where
  createOrReplaceSupported : Bool
  ifNotExistsSupported : Bool
  aggregateSupported : Bool
  binaryLoggingEnabled : Value
  functionCreatorsTrusted : Bool

/-- A stored routine: its name and kind, its status, and what the server shows of its creation. -/
structure Routine where
  name : Text
  kind : RoutineKind
  status : Row
  definition : Row

namespace Routine

/-- The statement in a definition that creates a routine of a kind. -/
def createStatement? (kind : RoutineKind) (definition : Row) : Option Text :=
  match definition.get kind.createColumn with
  | .null => none
  | value => some value.toText

/-- The statement that creates the routine. -/
def createSql (routine : Routine) : Option Text :=
  createStatement? routine.kind routine.definition

end Routine

end DumpRestore
