/-
This file orders tables for a dump. Views come last, because they depend on tables. In a WordPress
database a few tables that describe sites and users come first, then the core tables, then all
others; within each group, and in every other database, names decide.
-/

import DumpRestore.Text.Basic

namespace DumpRestore

/-- A table or a view of a database. -/
structure Table where
  name : Text
  type : Text := "TABLE"
deriving Repr, DecidableEq

namespace Table

/-- Whether a table is a view. -/
def isView (table : Table) : Bool :=
  table.type == "VIEW".toList

end Table

/-- Where the names of core tables come from: nowhere, a list, or a source that failed. -/
inductive CoreSource where
  | absent
  | names (names : List Text)
  | failed (message : Text)

/-- An order of tables: the type of the database, the prefix of its table names, and the core tables
without their prefix. -/
structure TableOrder where
  databaseType : Text
  tablePrefix : Text
  coreTables : List Text

namespace TableOrder

/-- The database type whose tables are ordered by their role. -/
def wordPress : Text := "wp"

/-- The tables that come first, in this order. -/
def priorityTables : List Text := ["options", "site", "blogs", "users", "usermeta"]

/-- The core tables where no others are known. -/
def fallbackCoreTables : List Text := [
  "terms", "term_taxonomy", "termmeta", "term_relationships", "commentmeta", "comments", "links",
  "postmeta", "posts", "site", "sitemeta", "blogs", "blogversions", "blogmeta"]

/-- The core tables that a source gives, in code-point order and without repetition. A source
without names gives the fallback. -/
def coreTablesOf (source : CoreSource) : List Text :=
  let names := match source with
    | .names (name :: names) => name :: names
    | _ => fallbackCoreTables
  names.eraseDups.mergeSort fun first second => Text.order first second != .gt

/-- What there is to report about a source of core tables. -/
def complaint? : CoreSource → Option Text
  | .failed message => some ("Unable to load core table names: " ++ message)
  | _ => none

/-- The order for a database. -/
def ofSource (databaseType tablePrefix : Text) (source : CoreSource) : TableOrder :=
  { databaseType, tablePrefix, coreTables := coreTablesOf source }

/-- The place of a table among those that come first. -/
def priority? (order : TableOrder) (name : Text) : Option Nat :=
  priorityTables.findIdx? fun unprefixed => order.tablePrefix ++ unprefixed == name

/-- Whether a table is a core table: its name without the first occurrence of the prefix is one of
the core names. -/
def isCore (order : TableOrder) (name : Text) : Bool :=
  order.coreTables.elem (Text.replaceFirst order.tablePrefix [] name)

/-- The comparison of two names in a WordPress database. -/
def compareNames (order : TableOrder) (first second : Text) : Ordering :=
  match order.priority? first, order.priority? second with
  | some firstPlace, some secondPlace => compare firstPlace secondPlace
  | some _, none => .lt
  | none, some _ => .gt
  | none, none =>
    if order.tablePrefix.isEmpty then Text.order first second
    else match order.isCore first, order.isCore second with
      | true, false => .lt
      | false, true => .gt
      | _, _ => Text.order first second

/-- The comparison of two tables for a dump. -/
def compareTables (order : TableOrder) (first second : Table) : Ordering :=
  match first.isView, second.isView with
  | true, false => .gt
  | false, true => .lt
  | _, _ =>
    if order.databaseType = wordPress then order.compareNames first.name second.name
    else Text.order first.name second.name

/-- The tables in dump order. Tables that compare as equal keep their order. -/
def sort (order : TableOrder) (tables : List Table) : List Table :=
  tables.mergeSort fun first second => order.compareTables first second != .gt

end TableOrder

end DumpRestore
