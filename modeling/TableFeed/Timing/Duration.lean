import TableFeed.Number.Shortest

/-!
# Durations

Lengths of time in whole nanoseconds. A polling interval is given in seconds; one that is no
positive length of time is replaced by the default.
-/

namespace TableFeed

/-- A length of time. -/
structure Duration where
  nanos : Nat
  deriving DecidableEq, Repr, Inhabited

namespace Duration

/-- The nanoseconds of a second. -/
def nanosPerSecond : Nat := 1000000000

/-- The nanoseconds of a millisecond. -/
def nanosPerMilli : Nat := 1000000

/-- No duration has this many seconds. -/
def secondsLimit : Nat := UInt64.size

def zero : Duration := ⟨0⟩

/-- A duration of whole seconds and nanoseconds. -/
def ofParts (seconds nanos : Nat) : Duration :=
  ⟨seconds * nanosPerSecond + nanos⟩

def ofSeconds (seconds : Nat) : Duration := ofParts seconds 0

def ofMillis (millis : Nat) : Duration := ⟨millis * nanosPerMilli⟩

/-- The whole seconds of a duration. -/
def seconds (d : Duration) : Nat := d.nanos / nanosPerSecond

/-- The nanoseconds of a duration beyond its whole seconds. -/
def subsecond (d : Duration) : Nat := d.nanos % nanosPerSecond

/-- The whole milliseconds of a duration. -/
def millis (d : Duration) : Nat := d.nanos / nanosPerMilli

/-- The shorter of two durations. -/
def min (a b : Duration) : Duration :=
  if a.nanos ≤ b.nanos then a else b

/-- The duration nearest to a number of seconds, if it is not negative and not too long. -/
def ofBinary64? : Binary64 → Option Duration
  | .finite negative m e =>
    let (num, den) := Binary64.ratio (m * nanosPerSecond) e
    let nanos := Binary64.roundQuotient num den
    if (negative ∧ m ≠ 0) ∨ secondsLimit * nanosPerSecond ≤ nanos then none else some ⟨nanos⟩
  | _ => none

/-- A number with a fraction of so many digits, without zeros at its end. -/
def decimalText (whole fraction digits : Nat) : String :=
  if fraction = 0 then toString whole
  else
    let text := Shortest.zeros (digits - (toString fraction).length) ++ toString fraction
    let kept := (text.toList.reverse.dropWhile (· = '0')).reverse
    toString whole ++ "." ++ String.ofList kept

/-- A duration in the largest unit that leaves it at least one. -/
def text (d : Duration) : String :=
  if nanosPerSecond ≤ d.nanos then decimalText d.seconds d.subsecond 9 ++ "s"
  else if nanosPerMilli ≤ d.nanos then decimalText d.millis (d.nanos % nanosPerMilli) 6 ++ "ms"
  else if 1000 ≤ d.nanos then decimalText (d.nanos / 1000) (d.nanos % 1000) 3 ++ "µs"
  else toString d.nanos ++ "ns"

/-- The seconds of the default polling interval. -/
def defaultIntervalSeconds : Nat := 60

/-- The polling interval of a number of seconds. -/
def interval (seconds : Binary64) : Duration :=
  match ofBinary64? seconds with
  | some d => if d.nanos = 0 then ofSeconds defaultIntervalSeconds else d
  | none => ofSeconds defaultIntervalSeconds

end Duration

end TableFeed
