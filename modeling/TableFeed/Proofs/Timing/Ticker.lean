import TableFeed.Timing.Scheduler

/-!
# One ticker

What is left of a ticker when a tick is taken from it, and how a wait for one ends.

* **`wait_cases`** — the three ends of a wait. A ticker that was told to stop ends it before a tick that
  is due, and a tick that is overdue is taken at once.
-/

namespace TableFeed.Ticker

theorem stopped_take (k : Ticker) (moment : Instant) : (k.take moment).stopped = k.stopped := by
  unfold Ticker.take
  -- the kernel would count the nanoseconds of the tolerance one by one
  generalize k.nextDue moment = due
  rfl

theorem interval_take (k : Ticker) (moment : Instant) : (k.take moment).interval = k.interval := by
  unfold Ticker.take
  generalize k.nextDue moment = due
  rfl

/-- The three ends of a wait. A tick that is overdue is taken at once. -/
theorem wait_cases (k : Ticker) (now : Instant) (within : Duration) :
    (k.stopped = true ∧ k.wait now within = (.stopped, k, now)) ∨
    (k.stopped = false ∧ k.due ≤ now + within.nanos ∧
      k.wait now within = (.tick, k.take (max now k.due), max now k.due)) ∨
    (k.stopped = false ∧ now + within.nanos < k.due ∧
      k.wait now within = (.timeout, k, now + within.nanos)) := by
  have hmoment : max now k.due ≤ now + within.nanos ↔ k.due ≤ now + within.nanos :=
    Nat.max_le.trans (and_iff_right (Nat.le_add_right now within.nanos))
  unfold Ticker.wait
  cases hs : k.stopped with
  | true => exact .inl ⟨rfl, rfl⟩
  | false =>
    dsimp only [Bool.false_eq_true, if_false]
    by_cases hdue : k.due ≤ now + within.nanos
    · exact .inr (.inl ⟨rfl, hdue, if_pos (hmoment.mpr hdue)⟩)
    · exact .inr (.inr ⟨rfl, Nat.lt_of_not_le hdue, if_neg fun h => hdue (hmoment.mp h)⟩)

theorem stopped_wait (k : Ticker) (now : Instant) (within : Duration) :
    (k.wait now within).2.1.stopped = k.stopped := by
  rcases wait_cases k now within with ⟨-, hwait⟩ | ⟨-, -, hwait⟩ | ⟨-, -, hwait⟩ <;> rw [hwait]
  exact stopped_take k _

theorem wait_stopped_iff (k : Ticker) (now : Instant) (within : Duration) :
    (k.wait now within).1 = .stopped ↔ k.stopped = true := by
  rcases wait_cases k now within with ⟨hs, hwait⟩ | ⟨hs, -, hwait⟩ | ⟨hs, -, hwait⟩ <;>
    simp [hwait, hs]

theorem wait_tick_iff (k : Ticker) (now : Instant) (within : Duration) :
    (k.wait now within).1 = .tick ↔ k.stopped = false ∧ k.due ≤ now + within.nanos := by
  rcases wait_cases k now within with ⟨hs, hwait⟩ | ⟨hs, hdue, hwait⟩ | ⟨hs, hearly, hwait⟩
  · simp [hwait, hs]
  · exact iff_of_true (by rw [hwait]) ⟨hs, hdue⟩
  · exact iff_of_false (by rw [hwait]; exact nofun) fun h => Nat.not_le.mpr hearly h.2

end TableFeed.Ticker
