import TableFeed.Calendar.Date
import TableFeed.Database.Bytes

/-!
# Dates and times of the database

Moments come as microseconds from the start of the year 2000, dates as days from then and times as
microseconds of a day. Their text is that of timestamps: a fraction of a second has three or six
digits, and a year outside 0 to 9999 has a sign.
-/

namespace TableFeed.Moment

/-- The days from 1970 to 2000. -/
def epochDays : Int := 10957

/-- The microseconds of a day. -/
def microsPerDay : Nat := 86400000000

/-- A year: four digits, or a sign and at least four. -/
def yearText (year : Int) : String :=
  if 0 ≤ year ∧ year ≤ 9999 then Digits.padded 4 year.toNat
  else (if year < 0 then "-" else "+") ++ Digits.padded 4 year.natAbs

/-- A day. -/
def dateText (d : Date) : String :=
  yearText d.year ++ "-" ++ Digits.padded 2 d.month ++ "-" ++ Digits.padded 2 d.day

/-- The fraction of a second that a number of microseconds is. -/
def fractionText (micros : Nat) : String :=
  if micros = 0 then ""
  else if micros % 1000 = 0 then "." ++ Digits.padded 3 (micros / 1000)
  else "." ++ Digits.padded 6 micros

/-- The time of a day after a number of microseconds. -/
def timeText (micros : Nat) : String :=
  let seconds := micros / 1000000
  Digits.padded 2 (seconds / 3600) ++ ":" ++ Digits.padded 2 (seconds / 60 % 60) ++ ":" ++
    Digits.padded 2 (seconds % 60) ++ fractionText (micros % 1000000)

/-- The day at a number of days from the start of 2000, if it is counted. -/
def date? (days : Int) : Option Date :=
  let n := days + epochDays
  if Date.minDays ≤ n ∧ n ≤ Date.maxDays then some (Date.ofDays n) else none

/-- A timestamp in universal time, given in microseconds from the start of 2000. -/
def timestamp? (micros : Int) : Option String :=
  (date? (Int.fdiv micros microsPerDay)).map fun d =>
    dateText d ++ "T" ++ timeText (micros % microsPerDay).toNat ++ "+00:00"

end TableFeed.Moment
