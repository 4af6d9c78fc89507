/-
This file proves that a cache is written once. A store gives back the entry that stands under the
name from then on; it changes nothing under other names, and an entry that stands is found again
after every store.
-/

import DumpRestore.Cache

namespace DumpRestore.Cache

variable {Entry : Type} (cache : Cache Entry) (name : Text) (entry : Entry)

/-- Where nothing stands under a name, what is stored is what stands there. -/
theorem store_of_missing (missing : cache.get? name = none) :
    cache.store name entry = (entry, { entries := cache.entries ++ [(name, entry)] }) := by
  unfold store
  rw [missing]

theorem store_of_found (standing : Entry) (found : cache.get? name = some standing) :
    cache.store name entry = (standing, cache) := by
  unfold store
  rw [found]

/-- After a store the name leads to the entry that the store gave. -/
theorem get?_store_self :
    (cache.store name entry).2.get? name = some (cache.store name entry).1 := by
  cases found : cache.get? name with
  | some standing => rw [cache.store_of_found name entry standing found, found]
  | none =>
    rw [cache.store_of_missing name entry found]
    show (cache.entries ++ [(name, entry)]).lookup name = some entry
    rw [List.lookup_append, show cache.entries.lookup name = none from found]
    simp

theorem get?_store_of_missing (missing : cache.get? name = none) :
    (cache.store name entry).2.get? name = some entry := by
  rw [get?_store_self, cache.store_of_missing name entry missing]

/-- An entry that stands stays. -/
theorem get?_store_of_found (other : Text) (standing : Entry)
    (found : cache.get? other = some standing) :
    (cache.store name entry).2.get? other = some standing := by
  unfold store
  split
  · exact found
  · show (cache.entries ++ [(name, entry)]).lookup other = some standing
    rw [List.lookup_append, show cache.entries.lookup other = some standing from found]
    rfl

/-- Other names lead to what they led to. -/
theorem get?_store_of_ne (other : Text) (different : other ≠ name) :
    (cache.store name entry).2.get? other = cache.get? other := by
  unfold store
  split
  · rfl
  · show (cache.entries ++ [(name, entry)]).lookup other = cache.entries.lookup other
    rw [List.lookup_append, List.lookup_cons, beq_eq_false_iff_ne.mpr different]
    exact Option.or_none

end DumpRestore.Cache
