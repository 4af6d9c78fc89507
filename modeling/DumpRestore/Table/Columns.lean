/-
This file reads the generated columns of a CREATE TABLE statement: the columns in the fragments of
its body, with positions that count from the start of the source the statement stands in.
-/

import DumpRestore.Column.Parse
import DumpRestore.Table.Body

namespace DumpRestore.TableBody

/-- The generated columns of a statement that stands at a position of its source, in order. -/
def columns (offset : Int) (statement : Text) : List Column :=
  (split statement).filterMap fun fragment =>
    Column.parse? (offset + fragment.offset) fragment.text

end DumpRestore.TableBody
