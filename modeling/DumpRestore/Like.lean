/-
This file escapes texts for the two places in which statements hold them as they are: the pattern
of a LIKE comparison, and the inside of a literal in apostrophes.
-/

import DumpRestore.Text.Basic

namespace DumpRestore

namespace Like

/-- The pattern that matches one text only: a backslash stands before every backslash, underscore
and percent sign. -/
def escape (text : Text) : Text :=
  text |> Text.replaceChar '\\' "\\\\" |> Text.replaceChar '_' "\\_" |> Text.replaceChar '%' "\\%"

end Like

namespace SqlLiteral

/-- The control character that ends a text file on some systems. -/
def substitute : Char := Char.ofNat 0x1A

/-- The text as it stands inside a literal in apostrophes: backslashes first, then newlines,
carriage returns, both quotes and the substitute character get a backslash. -/
def escape (text : Text) : Text :=
  text |> Text.replaceChar '\\' "\\\\" |> Text.replaceChar '\n' "\\n" |>
    Text.replaceChar '\r' "\\r" |> Text.replaceChar '\'' "\\'" |> Text.replaceChar '"' "\\\"" |>
    Text.replaceChar substitute ['\\', substitute]

end SqlLiteral

end DumpRestore
