import TableFeed.Events.Attempts
import TableFeed.Proofs.Lookup

/-!
# Counts of failed attempts

What the count of each entry is after a failure of one of them was counted or forgotten. The two
ways in which counting ends are **`fail_of_last`**, the attempts are used up, and
**`fail_of_more`**.
-/

namespace TableFeed

namespace Attempts

/-- The counts after the failure of an entry that has attempts left. -/
def counted (a : Attempts) (id : String) : Attempts :=
  { a with failures := (id, a.count id + 1) :: (a.clear id).failures }

@[simp] theorem clear_limit (a : Attempts) (id : String) : (a.clear id).limit = a.limit := rfl

@[simp] theorem counted_limit (a : Attempts) (id : String) : (a.counted id).limit = a.limit := rfl

/-- Forgetting the failures of an entry leaves the counts of the others. -/
theorem count_clear (a : Attempts) (id i : String) :
    (a.clear id).count i = if i = id then 0 else a.count i := by
  show ((a.failures.filter (·.1 ≠ id)).lookup i).getD 0 = _
  rw [lookup_removed]
  split <;> rfl

/-- Counting a failure of an entry leaves the counts of the others. -/
theorem count_counted (a : Attempts) (id i : String) :
    (a.counted id).count i = if i = id then a.count id + 1 else a.count i := by
  show (List.lookup i ((id, a.count id + 1) :: (a.clear id).failures)).getD 0 = _
  rw [lookup_cons]
  by_cases h : i = id
  · rw [if_pos h, if_pos h]
    rfl
  · rw [if_neg h, if_neg h]
    show (a.clear id).count i = _
    rw [count_clear, if_neg h]

/-- With the failure that reaches the limit the count is forgotten. -/
theorem fail_of_last {a : Attempts} {id : String} (h : a.limit ≤ a.count id + 1) :
    a.fail id = (a.clear id, true) :=
  if_pos h

/-- Below the limit the failure is counted. -/
theorem fail_of_more {a : Attempts} {id : String} (h : ¬ a.limit ≤ a.count id + 1) :
    a.fail id = (a.counted id, false) :=
  if_neg h

end Attempts

end TableFeed
