/-!
# Calendar days

Days of the Gregorian calendar, extended over all years, and their count from 1 January 1970.
-/

namespace TableFeed

/-- A day of the calendar. -/
structure Date where
  year : Int
  month : Nat
  day : Nat
  deriving DecidableEq, Repr

namespace Date

/-- A year with 366 days. -/
def isLeap (year : Int) : Bool :=
  year % 4 == 0 && (year % 100 != 0 || year % 400 == 0)

/-- The number of days of a month. -/
def daysIn (year : Int) (month : Nat) : Nat :=
  if month = 2 then (if isLeap year then 29 else 28)
  else if month ∈ [4, 6, 9, 11] then 30
  else 31

/-- The least year that is counted. -/
def minYear : Int := -262143

/-- The greatest year that is counted. -/
def maxYear : Int := 262142

/-- A day that the calendar has. -/
def Valid (d : Date) : Prop :=
  minYear ≤ d.year ∧ d.year ≤ maxYear ∧ 1 ≤ d.month ∧ d.month ≤ 12 ∧
    1 ≤ d.day ∧ d.day ≤ daysIn d.year d.month

instance (d : Date) : Decidable d.Valid :=
  inferInstanceAs (Decidable (_ ∧ _))

/-- The days before a month of a year that begins in March. -/
def daysBefore (marchMonth : Nat) : Nat :=
  (153 * marchMonth + 2) / 5

/-- The number of days from 1 January 1970. Counting years from March puts the leap day at the end
of a year. -/
def toDays (d : Date) : Int :=
  let year := if d.month ≤ 2 then d.year - 1 else d.year
  let marchMonth := (d.month + 9) % 12
  let era := Int.fdiv year 400
  let yearOfEra := year - era * 400
  let dayOfYear := daysBefore marchMonth + d.day - 1
  let dayOfEra := yearOfEra * 365 + Int.fdiv yearOfEra 4 - Int.fdiv yearOfEra 100 + dayOfYear
  era * 146097 + dayOfEra - 719468

/-- The day at a number of days from 1 January 1970. -/
def ofDays (days : Int) : Date :=
  let shifted := days + 719468
  let era := Int.fdiv shifted 146097
  let dayOfEra := (shifted - era * 146097).toNat
  let yearOfEra := (dayOfEra - dayOfEra / 1460 + dayOfEra / 36524 - dayOfEra / 146096) / 365
  let dayOfYear := dayOfEra - (365 * yearOfEra + yearOfEra / 4 - yearOfEra / 100)
  let marchMonth := (5 * dayOfYear + 2) / 153
  let day := dayOfYear - daysBefore marchMonth + 1
  let month := if marchMonth < 10 then marchMonth + 3 else marchMonth - 9
  let year := (yearOfEra : Int) + era * 400
  ⟨if month ≤ 2 then year + 1 else year, month, day⟩

/-- The first day that is counted, and the last. -/
def minDays : Int := toDays ⟨minYear, 1, 1⟩

def maxDays : Int := toDays ⟨maxYear, 12, 31⟩

/-- The weekday, from zero for Monday. -/
def weekday (d : Date) : Nat :=
  ((d.toDays + 3) % 7).toNat

/-- The names of the months, three letters each. -/
def monthNames : List String :=
  ["jan", "feb", "mar", "apr", "may", "jun", "jul", "aug", "sep", "oct", "nov", "dec"]

/-- The names of the weekdays, three letters each. -/
def weekdayNames : List String :=
  ["mon", "tue", "wed", "thu", "fri", "sat", "sun"]

end Date

/-- A day with a time of the day; the second 60 is a leap second. -/
structure DateTime where
  date : Date
  hour : Nat := 0
  minute : Nat := 0
  second : Nat := 0
  deriving DecidableEq, Repr

namespace DateTime

/-- A day that the calendar has, and a time that a clock shows. -/
def Valid (t : DateTime) : Prop :=
  t.date.Valid ∧ t.hour ≤ 23 ∧ t.minute ≤ 59 ∧ t.second ≤ 60

instance (t : DateTime) : Decidable t.Valid :=
  inferInstanceAs (Decidable (_ ∧ _))

/-- The number of seconds from the start of 1970, a leap second counted with the one before it. -/
def toSeconds (t : DateTime) : Int :=
  t.date.toDays * 86400 + t.hour * 3600 + t.minute * 60 + min t.second 59

/-- The time can be shown at a distance of `offset` seconds from universal time: the distance is
under a day, and the universal time is one that is counted. -/
def ValidAt (t : DateTime) (offset : Int) : Prop :=
  t.Valid ∧ -86400 < offset ∧ offset < 86400 ∧
    Date.minDays * 86400 ≤ t.toSeconds - offset ∧ t.toSeconds - offset < (Date.maxDays + 1) * 86400

instance (t : DateTime) (offset : Int) : Decidable (t.ValidAt offset) :=
  inferInstanceAs (Decidable (_ ∧ _))

end DateTime

end TableFeed
