import TableFeed.Timing.Duration

/-!
# Backoff

How long a loop waits after failures in a row: the delay doubles with each, up to a cap. Delays are
computed in whole milliseconds of 64 bits, which saturate.
-/

namespace TableFeed

/-- The first delay of a backoff and the longest. -/
structure BackoffLimits where
  initial : Duration := .ofMillis 100
  cap : Duration := .ofSeconds 30
  deriving DecidableEq, Repr

namespace Backoff

/-- The greatest number of 64 bits. -/
def maxWord : Nat := UInt64.size - 1

/-- A power of two, at most the greatest word. -/
def saturatingPower (n : Nat) : Nat :=
  if n < 64 then Nat.pow 2 n else maxWord

/-- The delay before a retry, counted from one: the initial delay doubled for every retry before
it, at most the cap. -/
def delay (attempt : Nat) (limits : BackoffLimits) : Duration :=
  if attempt = 0 then .zero
  else
    let millis := limits.initial.millis % UInt64.size
    let millis := min maxWord (millis * saturatingPower (attempt - 1))
    (Duration.ofMillis millis).min limits.cap

end Backoff

/-- The failures in a row since the last success. -/
structure Backoff where
  limits : BackoffLimits := {}
  failures : Nat := 0
  deriving DecidableEq, Repr

namespace Backoff

/-- Counts a failure and gives the delay after it. -/
def next (b : Backoff) : Backoff × Duration :=
  let failures := min maxWord (b.failures + 1)
  ({ b with failures }, delay failures b.limits)

/-- Forgets the failures. -/
def reset (b : Backoff) : Backoff :=
  { b with failures := 0 }

end Backoff

end TableFeed
