import TableFeed.Proofs.Number.Numeral
import TableFeed.Timing.Scheduler

/-!
# First ticks

Seconds become an interval by rounding to whole nanoseconds, and an interval becomes a first tick by
adding it to what the clock reads. A duration has seconds of 64 bits and a moment has seconds of 63, so
a number may pass the first conversion and not the second. The default stands in for what the first
one refuses or rounds to nothing, and for nothing else.

* **`Binary64.Overruns`** — the numbers in between: they are durations, and the clock ends before them.
* **`nanos_interval_pos`** — no interval is empty.
* **`nanos_interval_of_whole`**, **`nanos_interval_of_fraction`** — the crux: an interval of many
  seconds is exact, since its number is a whole one, and all others are far from the end of the clock.
* **`interval_exact_or_short`** — so there are two kinds of intervals.
* **`start?_eq_none_iff`** — the first tick is missing for the numbers in between exactly.
-/

namespace TableFeed

namespace Binary64

/-- What a word encodes is in the format. -/
theorem inFormat_ofBits (w : Nat) : (ofBits w).InFormat := by
  intro s m e h
  unfold ofBits at h
  dsimp only at h
  have hfield : w / Nat.pow 2 52 % Nat.pow 2 11 < 2048 := Nat.mod_lt _ (by decide)
  have hfraction : w % Nat.pow 2 52 < Nat.pow 2 52 := Nat.mod_lt _ (by decide)
  generalize w / Nat.pow 2 52 % Nat.pow 2 11 = field at h hfield
  generalize w % Nat.pow 2 52 = fraction at h hfraction
  have hdouble : Nat.pow 2 53 = 2 * Nat.pow 2 52 := by decide
  split at h
  · split at h <;> cases h
  · split at h
    · obtain ⟨-, rfl, rfl⟩ := Binary64.finite.inj h
      exact ⟨by omega, by decide, by decide, .inr rfl⟩
    · obtain ⟨-, rfl, rfl⟩ := Binary64.finite.inj h
      simp only [Canonical, minExponent, maxExponent]
      omega

/-- A number of seconds that is a duration, while the clock ends before so many seconds have passed. -/
def Overruns (x : Binary64) (now : Instant) : Prop :=
  ∃ m e, x = .finite false m e ∧ magnitude m e < 2 ^ 64 ∧
    (Instant.limit : ℚ) ≤ now + magnitude m e * Duration.nanosPerSecond

end Binary64

namespace Duration

open Binary64

/-- No interval is empty: the default stands in. -/
theorem nanos_interval_pos (x : Binary64) : 0 < (interval x).nanos := by
  unfold interval
  split
  · split
    · decide
    · rename_i hne
      exact Nat.pos_of_ne_zero hne
  · decide

/-- Seconds without a fraction are not rounded. -/
theorem nanos_interval_of_whole {m : Nat} {e : Int} (he : 0 ≤ e) (hm : 0 < m) :
    (magnitude m e < 2 ^ 64 →
      ((interval (.finite false m e)).nanos : ℚ) = magnitude m e * nanosPerSecond) ∧
    (2 ^ 64 ≤ magnitude m e →
      interval (.finite false m e) = ofSeconds defaultIntervalSeconds) := by
  have hvalue : magnitude m e = (m * 2 ^ e.toNat : Nat) := by
    rw [magnitude, ← pow_toNat he]
    push_cast
    rfl
  have hround : ∀ n, roundQuotient n 1 = n := by
    intro n
    simp [roundQuotient, Nat.mod_one]
  have hparts : m * nanosPerSecond * Nat.pow 2 e.toNat = m * 2 ^ e.toNat * nanosPerSecond :=
    Nat.mul_right_comm _ _ _
  have hpos : 0 < m * 2 ^ e.toNat := Nat.mul_pos hm (Nat.two_pow_pos _)
  have hsecond : 0 < nanosPerSecond := by decide
  unfold interval ofBinary64?
  simp only [ratio, if_pos he, hround, hparts, Bool.false_eq_true, false_and, false_or]
  rw [hvalue]
  generalize m * 2 ^ e.toNat = n at hpos
  constructor
  · intro hlt
    have hn : n < secondsLimit := by exact_mod_cast hlt
    rw [if_neg (not_le.mpr (Nat.mul_lt_mul_of_pos_right hn hsecond))]
    simp only [if_neg (Nat.mul_pos hpos hsecond).ne']
    push_cast
    rfl
  · intro hle
    have hn : secondsLimit ≤ n := by exact_mod_cast hle
    rw [if_pos (Nat.mul_le_mul_right _ hn)]

/-- The default is no longer than half of what the clock counts. -/
theorem nanos_default_lt :
    (ofSeconds defaultIntervalSeconds).nanos < (ofSeconds (2 ^ 62)).nanos := by decide

/-- Seconds with a fraction have few bits in front of the point. -/
theorem magnitude_of_fraction {m : Nat} {e : Int} (he : e < 0) (hm : m < 2 ^ 53) :
    magnitude m e < 2 ^ 53 := by
  have hsmall : (2 : ℚ) ^ e ≤ 1 := zpow_le_one_of_nonpos₀ one_le_two he.le
  calc magnitude m e ≤ m * 1 := by
        unfold magnitude
        gcongr
    _ < 2 ^ 53 := by
        rw [mul_one]
        exact_mod_cast hm

theorem nanos_interval_of_fraction {m : Nat} {e : Int} (he : e < 0) (hm : m < 2 ^ 53) (s : Bool) :
    (interval (.finite s m e)).nanos < (ofSeconds (2 ^ 62)).nanos := by
  obtain ⟨hden, hratio⟩ := ratio_eq (m * nanosPerSecond) e
  have hnear := (abs_le.mp (roundQuotient_near (ratio (m * nanosPerSecond) e).1 hden)).2
  have hvalue : magnitude (m * nanosPerSecond) e = magnitude m e * nanosPerSecond := by
    unfold magnitude
    push_cast
    ring
  have hfew := magnitude_of_fraction he hm
  have hshort : roundQuotient (ratio (m * nanosPerSecond) e).1 (ratio (m * nanosPerSecond) e).2 <
      (ofSeconds (2 ^ 62)).nanos := by
    have hlt : (roundQuotient (ratio (m * nanosPerSecond) e).1
        (ratio (m * nanosPerSecond) e).2 : ℚ) < 2 ^ 54 * 1000000000 := by
      have hunit : (nanosPerSecond : ℚ) = 1000000000 := by norm_num [nanosPerSecond]
      rw [hratio, hvalue, hunit] at hnear
      linarith
    refine lt_trans ?_ (show 2 ^ 54 * 1000000000 < (ofSeconds (2 ^ 62)).nanos by decide)
    exact_mod_cast hlt
  unfold interval ofBinary64?
  dsimp only
  generalize roundQuotient (ratio (m * nanosPerSecond) e).1 (ratio (m * nanosPerSecond) e).2 = nanos
    at hshort
  -- either the rounded number or the default
  split_ifs with hrefused
  · exact nanos_default_lt
  · dsimp only
    split
    · exact nanos_default_lt
    · exact hshort

/-- An interval has the seconds of its number exactly, or it is short. It is short for a number of few
seconds and for one that is no duration. -/
theorem interval_exact_or_short {x : Binary64} (hx : x.InFormat) :
    (∃ m e, x = .finite false m e ∧ magnitude m e < 2 ^ 64 ∧
      ((interval x).nanos : ℚ) = magnitude m e * nanosPerSecond) ∨
    ((interval x).nanos < (ofSeconds (2 ^ 62)).nanos ∧
      ∀ m e, x = .finite false m e → magnitude m e < 2 ^ 53 ∨ 2 ^ 64 ≤ magnitude m e) := by
  rcases x with - | - | ⟨s, m, e⟩
  · exact .inr ⟨nanos_default_lt, by simp⟩
  · exact .inr ⟨nanos_default_lt, by simp⟩
  obtain ⟨hm, -⟩ := hx s m e rfl
  rcases lt_or_ge e 0 with he | he
  · refine .inr ⟨nanos_interval_of_fraction he hm s, fun m' e' heq => .inl ?_⟩
    obtain ⟨-, rfl, rfl⟩ := Binary64.finite.inj heq
    exact magnitude_of_fraction he hm
  rcases Nat.eq_zero_or_pos m with rfl | hpos
  · have hzero : interval (.finite s 0 e) = ofSeconds defaultIntervalSeconds := by
      simp [interval, ofBinary64?, ratio, he, roundQuotient, secondsLimit, nanosPerSecond]
    refine .inr ⟨hzero ▸ nanos_default_lt, fun m' e' heq => .inl ?_⟩
    obtain ⟨-, rfl, rfl⟩ := Binary64.finite.inj heq
    norm_num [magnitude]
  cases s with
  | true =>
    have hrefused : interval (.finite true m e) = ofSeconds defaultIntervalSeconds := by
      simp [interval, ofBinary64?, hpos.ne']
    exact .inr ⟨hrefused ▸ nanos_default_lt, by simp⟩
  | false =>
    obtain ⟨hexact, hreplaced⟩ := nanos_interval_of_whole he hpos
    rcases lt_or_ge (magnitude m e) (2 ^ 64) with hfits | hlong
    · exact .inl ⟨m, e, rfl, hfits, hexact hfits⟩
    · refine .inr ⟨hreplaced hlong ▸ nanos_default_lt, fun m' e' heq => .inr ?_⟩
      obtain ⟨-, rfl, rfl⟩ := Binary64.finite.inj heq
      exact hlong

end Duration

/-- A clock in its first half reaches the end of a duration that is no longer than that. -/
theorem Instant.add_lt_limit {now : Instant} {d : Duration}
    (hnow : now < (Duration.ofSeconds (2 ^ 62)).nanos)
    (h : d.nanos < (Duration.ofSeconds (2 ^ 62)).nanos) : now + d.nanos < Instant.limit := by
  have hhalves : (Duration.ofSeconds (2 ^ 62)).nanos + (Duration.ofSeconds (2 ^ 62)).nanos =
      Instant.limit := by decide
  exact hhalves ▸ Nat.add_lt_add hnow h

namespace Ticker

open Binary64

theorem start?_of_lt {interval : Duration} {now : Instant}
    (h : now + interval.nanos < Instant.limit) :
    start? interval now = some { interval, due := now + interval.nanos } := by
  unfold start? Instant.add?
  rw [if_pos h]
  rfl

/-- The first tick is missing if the clock does not reach it. -/
theorem start?_eq_none {interval : Duration} {now : Instant} :
    start? interval now = none ↔ Instant.limit ≤ now + interval.nanos := by
  unfold start? Instant.add?
  by_cases h : now + interval.nanos < Instant.limit
  · simp [h]
  · simp [h, not_lt.mp h]

variable {now : Instant}

/-- An overrun takes more seconds than the clock's second half. -/
theorem le_of_overruns {m : Nat} {e : Int} (hnow : now < (Duration.ofSeconds (2 ^ 62)).nanos)
    (h : (Instant.limit : ℚ) ≤ now + magnitude m e * Duration.nanosPerSecond) :
    2 ^ 62 < magnitude m e := by
  have hclock : (now : ℚ) < 2 ^ 62 * 1000000000 := by exact_mod_cast hnow
  have hlimit : (Instant.limit : ℚ) = 2 ^ 63 * 1000000000 := by
    norm_num [Instant.limit, Duration.nanosPerSecond]
  have hunit : (Duration.nanosPerSecond : ℚ) = 1000000000 := by norm_num [Duration.nanosPerSecond]
  rw [hlimit, hunit] at h
  linarith

/-- A clock in its first half misses the first tick for the numbers that overrun it exactly. -/
theorem start?_eq_none_iff {x : Binary64} (hx : x.InFormat)
    (hnow : now < (Duration.ofSeconds (2 ^ 62)).nanos) :
    start? (.interval x) now = none ↔ x.Overruns now := by
  rcases Duration.interval_exact_or_short hx with ⟨m, e, rfl, hfits, hexact⟩ | ⟨hshort, hoff⟩
  · have hcast : Instant.limit ≤ now + (Duration.interval (.finite false m e)).nanos ↔
        (Instant.limit : ℚ) ≤ now + magnitude m e * Duration.nanosPerSecond := by
      rw [← hexact]
      exact_mod_cast Iff.rfl
    rw [start?_eq_none, hcast]
    refine ⟨fun hlate => ⟨m, e, rfl, hfits, hlate⟩, ?_⟩
    rintro ⟨m', e', heq, -, hlate⟩
    obtain ⟨-, rfl, rfl⟩ := Binary64.finite.inj heq
    exact hlate
  · have hreached := Instant.add_lt_limit hnow hshort
    refine iff_of_false (fun hnone => not_le.mpr hreached (start?_eq_none.mp hnone)) ?_
    rintro ⟨m, e, hx, hfits, hlate⟩
    have hmany := le_of_overruns hnow hlate
    rcases hoff m e hx with hfew | hlong
    · linarith
    · exact absurd hfits (not_lt.mpr hlong)

end Ticker

end TableFeed
