/-
This file defines a cache whose entries are written once. An entry stays as it is, so a second
store under the same name gives back what the first one put there.
-/

import DumpRestore.Text.Basic

namespace DumpRestore

/-- Entries under names, in the order in which they were stored. -/
structure Cache (Entry : Type) where
  entries : List (Text × Entry) := []

namespace Cache

variable {Entry : Type}

/-- The entry under a name. -/
def get? (name : Text) (cache : Cache Entry) : Option Entry :=
  cache.entries.lookup name

/-- Whether there is an entry under a name. -/
def has (name : Text) (cache : Cache Entry) : Bool :=
  (cache.get? name).isSome

/-- The number of entries. -/
def size (cache : Cache Entry) : Nat :=
  cache.entries.length

/-- Stores an entry unless there is one under the name; gives the entry that stands there. -/
def store (name : Text) (entry : Entry) (cache : Cache Entry) : Entry × Cache Entry :=
  match cache.get? name with
  | some standing => (standing, cache)
  | none => (entry, { entries := cache.entries ++ [(name, entry)] })

end Cache

end DumpRestore
