/-
This file merges SQL modes. A mode string is a list of names with commas between them; names are
compared in upper case and without blanks around them. Merging puts new names first, keeps the
first of equal names, and leaves out what a restore cannot work under.
-/

import DumpRestore.Text.Blank
import DumpRestore.Text.Case

namespace DumpRestore.SqlMode

/-- The modes that reject data an older server accepted: zero dates, loose grouping, and strict
inserts. -/
def blocklist : List Text := [
  "NO_ZERO_DATE", "ONLY_FULL_GROUP_BY", "TRADITIONAL", "STRICT_TRANS_TABLES", "STRICT_ALL_TABLES"]

/-- The name of a mode in the one form in which names are compared. -/
def normalize (name : Text) : Text :=
  Text.upper (Text.trim name)

/-- The names in a mode string, blank ones left out. -/
def parse (modes : Text) : List Text :=
  ((Text.splitOn ',' modes).filter fun name => !(Text.trim name).isEmpty).map normalize

/-- The names that a merge leaves out. -/
def excluded (remove : List Text) : List Text :=
  blocklist ++ remove.map normalize

/-- The names of a merge: those to add, then the current ones, each at its first place, without the
excluded ones. -/
def mergedNames (current : Text) (add remove : List Text) : List Text :=
  (parse (Text.join "," add) ++ parse current).eraseDups.filter fun name =>
    !(excluded remove).elem name

/-- The mode string of a merge. -/
def merge (current : Text) (add remove : List Text) : Text :=
  Text.join "," (mergedNames current add remove)

/-- The items of several lists with commas, blanks around them and blank items left out. -/
def splitItems (lists : List Text) : List Text :=
  (lists.flatMap (Text.splitOn ',')).filterMap fun item =>
    if (Text.trim item).isEmpty then none else some (Text.trim item)

end DumpRestore.SqlMode
