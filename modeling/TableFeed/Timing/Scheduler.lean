import TableFeed.Timing.Duration

/-!
# Polling timers

A ticker is due one interval after it is started and then an interval after each tick. A tick that
is taken more than 5 ms late moves the next one to an interval after it was taken, so late ticks
are not made up for; otherwise ticks keep their grid. A stopped ticker never ticks again, even if a
tick was due.

A scheduler hands out tickers and keeps at most the last of them running.
-/

namespace TableFeed

/-- A moment, in nanoseconds of a clock that starts at zero. -/
abbrev Instant := Nat

namespace Instant

/-- The clock ends where its seconds need more than 63 bits. -/
def limit : Nat := Nat.pow 2 63 * Duration.nanosPerSecond

/-- A moment later, if the clock reaches it. -/
def add? (now : Instant) (d : Duration) : Option Instant :=
  if now + d.nanos < limit then some (now + d.nanos) else none

end Instant

/-- A source of ticks. -/
structure Ticker where
  interval : Duration
  /-- When the next tick is due. -/
  due : Instant
  stopped : Bool := false
  deriving DecidableEq, Repr

namespace Ticker

/-- How late a tick may be taken and still keep the grid. -/
def tolerance : Duration := .ofMillis 5

/-- A ticker started at a moment, if the clock reaches its first tick. -/
def start? (interval : Duration) (now : Instant) : Option Ticker :=
  (now.add? interval).map fun due => { interval, due }

/-- When the next tick is due after one is taken at a moment. -/
def nextDue (t : Ticker) (now : Instant) : Instant :=
  if t.due + tolerance.nanos < now then now + t.interval.nanos else t.due + t.interval.nanos

/-- The ticker after its tick is taken. -/
def take (t : Ticker) (now : Instant) : Ticker :=
  { t with due := t.nextDue now }

/-- A tick can be taken. -/
def ready (t : Ticker) (now : Instant) : Bool :=
  !t.stopped && t.due ≤ now

/-- The ticker, told to stop. -/
def stop (t : Ticker) : Ticker :=
  { t with stopped := true }

end Ticker

/-- What a wait for a tick ends with. -/
inductive Wait where
  | tick
  | stopped
  | timeout
  deriving DecidableEq, Repr

/-- Waits for a ticker from a moment, at most so long: how it ends, the ticker and the moment then.
A stop is seen before a tick. -/
def Ticker.wait (t : Ticker) (now : Instant) (within : Duration) : Wait × Ticker × Instant :=
  if t.stopped then (.stopped, t, now)
  else
    let moment := max now t.due
    if moment ≤ now + within.nanos then (.tick, t.take moment, moment)
    else (.timeout, t, now + within.nanos)

/-- The ticker of a scheduler that is running. -/
structure Running where
  /-- Its index. -/
  ticker : Nat
  /-- The task that polls it, once that is known. -/
  task : Option Nat := none
  deriving DecidableEq, Repr

/-- A polling timer with the tickers it has handed out, oldest first. -/
structure Scheduler where
  interval : Duration
  tickers : List Ticker := []
  running : Option Running := none
  deriving DecidableEq, Repr

namespace Scheduler

/-- A scheduler that polls every so many seconds. -/
def ofSeconds (seconds : Binary64) : Scheduler :=
  { interval := .interval seconds }

/-- A ticker of this scheduler is running. -/
def isRunning (s : Scheduler) : Bool :=
  s.running.isSome

/-- Stops the running ticker, if there is one. -/
def stop (s : Scheduler) : Scheduler :=
  match s.running with
  | none => s
  | some r => { s with tickers := s.tickers.modify r.ticker Ticker.stop, running := none }

/-- Stops the running ticker and starts a new one, if the clock reaches its first tick. -/
def start? (s : Scheduler) (now : Instant) : Option Scheduler :=
  let s := s.stop
  (Ticker.start? s.interval now).map fun t =>
    { s with tickers := s.tickers ++ [t], running := some { ticker := s.tickers.length } }

/-- Remembers the task that polls the running ticker, if there is one. -/
def attach (s : Scheduler) (task : Nat) : Scheduler :=
  { s with running := s.running.map fun r => { r with task := some task } }

/-- The scheduler goes away, which stops its running ticker. The tickers stay with those who wait
for them. -/
def drop (s : Scheduler) : Scheduler :=
  s.stop

/-- Waits for a ticker from a moment, at most so long. -/
def wait (s : Scheduler) (index : Nat) (now : Instant) (within : Duration) :
    Option (Wait × Scheduler × Instant) :=
  s.tickers[index]?.map fun t =>
    let (outcome, t, moment) := t.wait now within
    (outcome, { s with tickers := s.tickers.set index t }, moment)

end Scheduler

end TableFeed
