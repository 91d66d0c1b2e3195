/-!
# Delivery attempts

How often the handling of each entry has failed since it last succeeded or was given up. An entry
is given up with the failure that reaches the limit, and its count is then forgotten.
-/

namespace TableFeed

/-- The outstanding failures per entry. -/
structure Attempts where
  limit : Nat
  failures : List (String × Nat) := []
  deriving DecidableEq, Repr

namespace Attempts

/-- No failures yet; the limit is at least one. -/
def ofLimit (limit : Nat) : Attempts :=
  { limit := max limit 1 }

/-- The failures of an entry. -/
def count (a : Attempts) (id : String) : Nat :=
  (a.failures.lookup id).getD 0

/-- Forgets the failures of an entry. -/
def clear (a : Attempts) (id : String) : Attempts :=
  { a with failures := a.failures.filter (·.1 ≠ id) }

/-- Counts a failure of an entry; says whether its attempts are used up. -/
def fail (a : Attempts) (id : String) : Attempts × Bool :=
  let failures := a.count id + 1
  let cleared := a.clear id
  if a.limit ≤ failures then (cleared, true)
  else ({ cleared with failures := (id, failures) :: cleared.failures }, false)

/-- The number of entries with failures. -/
def pending (a : Attempts) : Nat :=
  a.failures.length

end Attempts

end TableFeed
