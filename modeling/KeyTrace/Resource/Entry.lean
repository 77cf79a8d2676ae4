import KeyTrace.Ascending

/-!
# Resource entries

## Main definitions

* `Entry`, `Entry.compare`: an entry by its container and key, and the order of entries.
-/

namespace KeyTrace

/-- A resource entry. -/
structure Entry where
  container : String
  key : String
deriving Repr, DecidableEq

/-- The order of entries: by container, then by key. -/
def Entry.compare (a b : Entry) : Ordering :=
  (compareText a.container b.container).then (compareText a.key b.key)

end KeyTrace
