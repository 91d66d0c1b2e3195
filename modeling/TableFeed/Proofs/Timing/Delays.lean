import Mathlib.Tactic.Ring
import TableFeed.Timing.Backoff

/-!
# The delays of a backoff

A delay is computed in whole milliseconds of 64 bits, where both the power of two and its product with the
initial delay saturate. The two together saturate as one, so a delay is the doubled initial one up to the
greatest word, less what the initial one has beyond whole milliseconds.

* **`min_mul_saturatingPower`** — the crux: a power that saturates in a product that saturates loses nothing.
* **`nanos_delay`** — so a delay is capped twice, by the greatest word of milliseconds and by the limit.
* **`delay_exact_iff`** — which delays are the doubled initial one, and which there are none of.
* **`delay_of_whole`**, **`delay_saturated`** — whole milliseconds are doubled exactly, whatever the number
  of failures and whether or not it is counted further.
-/

namespace TableFeed

open Duration (nanosPerMilli)

namespace Backoff

/-! ## Saturation -/

theorem nanos_min (a b : Duration) : (a.min b).nanos = min a.nanos b.nanos := by
  unfold Duration.min
  split
  · rename_i h
    exact (Nat.min_eq_left h).symm
  · rename_i h
    exact (Nat.min_eq_right (Nat.le_of_not_le h)).symm

theorem maxWord_lt {n : Nat} (h : 64 ≤ n) : maxWord < 2 ^ n := calc
  maxWord < 2 ^ 64 := by decide
  _ ≤ 2 ^ n := Nat.pow_le_pow_right (by decide) h

/-- A product with a power of two saturates as if the power did not. -/
theorem min_mul_saturatingPower (m n : Nat) :
    min maxWord (m * saturatingPower n) = min maxWord (m * 2 ^ n) := by
  unfold saturatingPower
  split
  · rfl
  · rename_i hn
    have hword : maxWord < 2 ^ n := maxWord_lt (Nat.le_of_not_lt hn)
    rcases Nat.eq_zero_or_pos m with rfl | hm
    · rw [Nat.zero_mul, Nat.zero_mul]
    · have hleft : maxWord ≤ m * maxWord := Nat.le_mul_of_pos_left _ hm
      have hright : maxWord ≤ m * 2 ^ n := hword.le.trans (Nat.le_mul_of_pos_left _ hm)
      rw [Nat.min_eq_left hleft, Nat.min_eq_left hright]

/-- The whole milliseconds that an initial delay comes to when it is doubled so many times. -/
def reached (doublings : Nat) (initial : Duration) : Duration :=
  .ofMillis (min maxWord (initial.millis % UInt64.size * 2 ^ doublings))

/-- A delay is what the initial one comes to, up to the cap. -/
theorem delay_eq (n : Nat) (limits : BackoffLimits) :
    delay (n + 1) limits = (reached n limits.initial).min limits.cap := by
  unfold delay
  rw [if_neg (Nat.succ_ne_zero n), Nat.add_sub_cancel]
  dsimp only
  rw [min_mul_saturatingPower]
  rfl

theorem nanos_delay (n : Nat) (limits : BackoffLimits) :
    (delay (n + 1) limits).nanos = min (reached n limits.initial).nanos limits.cap.nanos := by
  rw [delay_eq, nanos_min]

/-! ## What is lost -/

variable (n : Nat) (initial : Duration)

theorem nanos_reached : (reached n initial).nanos =
    min maxWord (initial.millis % UInt64.size * 2 ^ n) * nanosPerMilli :=
  rfl

/-- A doubled delay in nanoseconds: its whole milliseconds, and what is beyond them. -/
theorem doubled_eq : initial.nanos * 2 ^ n =
    initial.millis * 2 ^ n * nanosPerMilli + initial.nanos % nanosPerMilli * 2 ^ n := by
  have hparts : initial.nanos = initial.millis * nanosPerMilli + initial.nanos % nanosPerMilli :=
    (Nat.div_add_mod' _ _).symm
  calc initial.nanos * 2 ^ n
      = (initial.millis * nanosPerMilli + initial.nanos % nanosPerMilli) * 2 ^ n := by rw [← hparts]
    _ = initial.millis * 2 ^ n * nanosPerMilli + initial.nanos % nanosPerMilli * 2 ^ n := by ring

theorem reached_le_whole :
    (reached n initial).nanos ≤ initial.millis * 2 ^ n * nanosPerMilli := by
  have hword : initial.millis % UInt64.size * 2 ^ n ≤ initial.millis * 2 ^ n :=
    Nat.mul_le_mul_right _ (Nat.mod_le _ _)
  exact Nat.mul_le_mul_right _ ((Nat.min_le_right _ _).trans hword)

theorem reached_le : (reached n initial).nanos ≤ initial.nanos * 2 ^ n := by
  rw [doubled_eq]
  exact (reached_le_whole n initial).trans (Nat.le_add_right _ _)

/-- Nothing is lost of whole milliseconds whose double stays a word. -/
theorem reached_eq_iff : (reached n initial).nanos = initial.nanos * 2 ^ n ↔
    nanosPerMilli ∣ initial.nanos ∧ initial.millis * 2 ^ n ≤ maxWord := by
  have hpower : 0 < 2 ^ n := Nat.two_pow_pos n
  constructor
  · intro h
    have hwhole := reached_le_whole n initial
    rw [h, doubled_eq] at hwhole
    have hrest : initial.nanos % nanosPerMilli * 2 ^ n = 0 := by omega
    have hmod : initial.nanos % nanosPerMilli = 0 :=
      (Nat.mul_eq_zero.mp hrest).resolve_right hpower.ne'
    refine ⟨Nat.dvd_of_mod_eq_zero hmod, ?_⟩
    rw [nanos_reached, doubled_eq n initial, hrest, Nat.add_zero] at h
    rw [← Nat.eq_of_mul_eq_mul_right (by decide) h]
    exact Nat.min_le_left _ _
  · rintro ⟨hmod, hword⟩
    have hmillis : initial.millis < UInt64.size := calc
      initial.millis ≤ initial.millis * 2 ^ n := Nat.le_mul_of_pos_right _ hpower
      _ ≤ maxWord := hword
      _ < UInt64.size := by decide
    rw [nanos_reached, doubled_eq n initial, Nat.mod_eq_of_lt hmillis, Nat.min_eq_right hword,
      Nat.mod_eq_zero_of_dvd hmod, Nat.zero_mul, Nat.add_zero]

theorem reached_mono {n n' : Nat} (h : n ≤ n') : (reached n initial).nanos ≤ (reached n' initial).nanos :=
  Nat.mul_le_mul_right _
    (min_le_min_left _ (Nat.mul_le_mul_left _ (Nat.pow_le_pow_right (by decide) h)))

theorem reached_eq_zero : (reached n initial).nanos = 0 ↔ initial.millis % UInt64.size = 0 := by
  have hpower : 0 < 2 ^ n := Nat.two_pow_pos n
  have hword : maxWord ≠ 0 := by decide
  rw [nanos_reached, Nat.mul_eq_zero, Nat.min_eq_zero_iff, Nat.mul_eq_zero]
  constructor
  · rintro ((hmax | hmillis | hzero) | hunit)
    · exact absurd hmax hword
    · exact hmillis
    · exact absurd hzero hpower.ne'
    · exact absurd hunit (by decide)
  · exact fun h => .inl (.inr (.inl h))

/-! ## Whole milliseconds -/

variable {n initial}

/-- From the 64th doubling on an initial delay has come to all that it comes to. -/
theorem reached_saturated (h : 64 ≤ n) : reached n initial = reached 64 initial := by
  unfold reached
  rcases Nat.eq_zero_or_pos (initial.millis % UInt64.size) with hzero | hpos
  · rw [hzero, Nat.zero_mul, Nat.zero_mul]
  · have hword : ∀ k, 64 ≤ k → maxWord ≤ initial.millis % UInt64.size * 2 ^ k := fun k hk =>
      (maxWord_lt hk).le.trans (Nat.le_mul_of_pos_left _ hpos)
    rw [Nat.min_eq_left (hword n h), Nat.min_eq_left (hword 64 le_rfl)]

/-- A count of failures that goes no further gives the delay of the full count. -/
theorem delay_saturated (failures : Nat) (limits : BackoffLimits) :
    delay (min maxWord (failures + 1)) limits = delay (failures + 1) limits := by
  have hmax : maxWord = 18446744073709551614 + 1 := by decide
  rcases Nat.le_total (failures + 1) maxWord with h | h
  · rw [Nat.min_eq_right h]
  · have hmany : 64 ≤ failures := by omega
    rw [Nat.min_eq_left h, hmax, delay_eq, delay_eq, reached_saturated (by decide),
      reached_saturated hmany]

/-- Whole milliseconds are doubled exactly under a cap of 64 bits of them. -/
theorem delay_of_whole {millis : Nat} {limits : BackoffLimits} (hmillis : millis ≤ maxWord)
    (hinitial : limits.initial = .ofMillis millis)
    (hcap : limits.cap.nanos ≤ (Duration.ofMillis maxWord).nanos) (n : Nat) :
    (delay (n + 1) limits).nanos = min ((Duration.ofMillis millis).nanos * 2 ^ n) limits.cap.nanos := by
  have hwhole : (Duration.ofMillis millis).millis = millis :=
    Nat.mul_div_cancel _ (by decide)
  have hword : millis < UInt64.size := Nat.lt_of_le_of_lt hmillis (by decide)
  rw [nanos_delay, hinitial]
  rcases Nat.le_total (millis * 2 ^ n) maxWord with h | h
  · -- the double is a word, so it is exact
    have hexact := (reached_eq_iff n (.ofMillis millis)).mpr
      ⟨Nat.dvd_mul_left _ _, by rwa [hwhole]⟩
    rw [hexact]
  · -- the double is no word, so both are beyond the cap
    have hreached : (reached n (.ofMillis millis)).nanos = (Duration.ofMillis maxWord).nanos := by
      rw [nanos_reached, hwhole, Nat.mod_eq_of_lt hword, Nat.min_eq_left h]
      rfl
    have hdoubled := reached_le n (.ofMillis millis)
    rw [hreached] at hdoubled ⊢
    rw [Nat.min_eq_right hcap, Nat.min_eq_right (hcap.trans hdoubled)]

/-! ## Which delays are exact -/

/-- **Which delays are the initial one, doubled for every retry before it and capped.** It is so just if
the milliseconds of 64 bits that are computed reach the cap, or the initial delay is made of whole
milliseconds and its double has no more than 64 bits of them. No delay at all is waited out just if there
is no cap to reach or the initial delay has no milliseconds of 64 bits. A later retry never waits less. -/
theorem delay_exact_iff (retries : Nat) (limits : BackoffLimits) :
    ((delay (retries + 1) limits).nanos =
        min (limits.initial.nanos * 2 ^ retries) limits.cap.nanos ↔
      limits.cap.nanos ≤ (reached retries limits.initial).nanos ∨
        nanosPerMilli ∣ limits.initial.nanos ∧ limits.initial.millis * 2 ^ retries ≤ maxWord) ∧
    ((delay (retries + 1) limits).nanos = 0 ↔
      limits.cap.nanos = 0 ∨ limits.initial.millis % UInt64.size = 0) ∧
    ∀ more, (delay (retries + 1) limits).nanos ≤ (delay (retries + more + 1) limits).nanos := by
  have hle := reached_le retries limits.initial
  refine ⟨?_, ?_, fun more => ?_⟩
  · rw [nanos_delay, ← reached_eq_iff]
    constructor
    · intro h
      -- below the cap the shorter of the two is the delay itself
      rcases Nat.lt_or_ge (reached retries limits.initial).nanos limits.cap.nanos with hlt | hge
      · rw [Nat.min_eq_left hlt.le] at h
        exact .inr (by omega)
      · exact .inl hge
    · rintro (hge | heq)
      · rw [Nat.min_eq_right hge, Nat.min_eq_right (hge.trans hle)]
      · rw [heq]
  · rw [nanos_delay, Nat.min_eq_zero_iff, reached_eq_zero]
    exact or_comm
  · rw [nanos_delay, nanos_delay]
    exact min_le_min_right _ (reached_mono limits.initial (Nat.le_add_right _ _))

/-- Half a millisecond, and a second at most. -/
def brief : BackoffLimits := { initial := ⟨500000⟩, cap := .ofSeconds 1 }

/-- Half a millisecond is not waited out at all before the first retry. -/
theorem delay_vanishes :
    (delay 1 brief).nanos = 0 ∧ min (brief.initial.nanos * 2 ^ (1 - 1)) brief.cap.nanos = 500000 := by
  decide

end Backoff

end TableFeed
