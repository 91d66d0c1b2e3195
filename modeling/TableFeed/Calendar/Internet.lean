import TableFeed.Calendar.Scan

/-!
# Internet dates

Two standard forms of a date and time. A timestamp has fixed places, as in
`2024-02-29T12:30:00.5+01:00`. The date of a message is `Thu, 29 Feb 2024 12:30:00 +0100`: weekday,
seconds and comments are optional, two and three digits of a year are completed, and a zone may
stand for the offset; a weekday has to agree with the calendar.
-/

namespace TableFeed.Calendar

/-! ### Timestamps -/

/-- The offset of a timestamp: `Z`, or hours and minutes with a colon. -/
def timestampOffset : List Char → Option (Int × List Char)
  | 'Z' :: rest | 'z' :: rest => some (0, rest)
  | rest => offset true (exactly ':') rest

/-- The parts of a timestamp: the date and time, and the offset. -/
def timestamp? (s : String) : Option (DateTime × Int) := do
  let (year, rest) ← number 4 4 s.toList
  let (month, rest) ← number 2 2 (← exactly '-' rest)
  let (day, rest) ← number 2 2 (← exactly '-' rest)
  let rest ← match rest with
    | 'T' :: rest | 't' :: rest | ' ' :: rest => some rest
    | _ => none
  let (hour, rest) ← number 2 2 rest
  let (minute, rest) ← number 2 2 (← exactly ':' rest)
  let (second, rest) ← number 2 2 (← exactly ':' rest)
  let rest ← fraction rest
  let (offset, rest) ← timestampOffset rest
  let t : DateTime := ⟨⟨year, month, day⟩, hour, minute, second⟩
  if rest = [] ∧ t.ValidAt offset then some (t, offset) else none

/-- A text that is a timestamp. -/
def isTimestamp (s : String) : Bool :=
  (timestamp? s).isSome

/-! ### Dates of messages -/

/-- The zones with a name, with their distance from universal time in hours. -/
def zones : List (String × Int) :=
  [("gmt", 0), ("ut", 0), ("z", 0), ("edt", -4), ("est", -5), ("cdt", -5), ("cst", -6),
   ("mdt", -6), ("mst", -7), ("pdt", -7), ("pst", -8)]

/-- A letter of an ASCII name. -/
def isLetter (c : Char) : Bool :=
  c.isLower || c.isUpper

/-- The offset that a zone's name stands for. Single letters other than `j` are taken for universal
time. -/
def zone? (name : List Char) : Option Int :=
  let lower := name.map Char.toLower
  match zones.lookup (String.ofList lower) with
  | some hours => some (hours * 3600)
  | none =>
    match lower with
    | [c] => if c = 'j' then none else some 0
    | _ => none

/-- The offset of a message's date: a zone's name, or hours and minutes. -/
def messageOffset (cs : List Char) : Option (Int × List Char) :=
  let name := cs.takeWhile isLetter
  if name = [] then offset false some cs
  else (zone? name).map (·, cs.dropWhile isLetter)

/-- The rest of a comment with a number of open parentheses; a backslash takes the character behind
it for itself. -/
def commentRest : Nat → List Char → Option (List Char)
  | _, [] => none
  | _, ['\\'] => none
  | depth, '\\' :: _ :: rest => commentRest depth rest
  | depth, '(' :: rest => commentRest (depth + 1) rest
  | depth, ')' :: rest => if depth = 0 then some rest else commentRest (depth - 1) rest
  | depth, _ :: rest => commentRest depth rest

/-- A comment in parentheses, with white space in front of it. -/
def comment (cs : List Char) : Option (List Char) :=
  match skipBlank cs with
  | '(' :: rest => commentRest 0 rest
  | _ => none

/-- The text behind all comments. Each round takes at least two characters. -/
def skipComments : Nat → List Char → List Char
  | 0, cs => cs
  | rounds + 1, cs =>
    match comment cs with
    | some rest => skipComments rounds rest
    | none => cs

/-- The year that a number of so many digits stands for. -/
def completeYear (digits n : Nat) : Int :=
  if digits = 2 then (if n < 50 then n + 2000 else n + 1900)
  else if digits = 3 then n + 1900
  else n

/-- The optional weekday at the front of a message's date. -/
def messageWeekday (cs : List Char) : Option (Option Nat × List Char) :=
  match shortName Date.weekdayNames cs with
  | none => some (none, cs)
  | some (i, rest) => (exactly ',' rest).map (some i, ·)

/-- The optional seconds of a message's date. -/
def messageSeconds (cs : List Char) : Option (Nat × List Char) :=
  match skipBlank cs with
  | ':' :: rest => number 2 2 rest
  | _ => some (0, cs)

/-- The parts of a message's date: the date and time, and the offset. -/
def messageDate? (s : String) : Option (DateTime × Int) := do
  let (weekday, rest) ← messageWeekday (skipBlank s.toList)
  let (day, rest) ← number 1 2 (skipBlank rest)
  let (month, rest) ← shortName Date.monthNames (← blank rest)
  let rest ← blank rest
  let (year, rest') ← longNumber 2 rest
  let year := completeYear (rest.length - rest'.length) year
  let (hour, rest) ← number 2 2 (← blank rest')
  let rest ← exactly ':' (skipBlank rest)
  let (minute, rest) ← number 2 2 (skipBlank rest)
  let (second, rest) ← messageSeconds rest
  let (offset, rest) ← messageOffset (← blank rest)
  let t : DateTime := ⟨⟨year, month + 1, day⟩, hour, minute, second⟩
  if skipComments rest.length rest = [] ∧ t.ValidAt offset ∧ weekday.all (· = t.date.weekday)
  then some (t, offset)
  else none

/-- A text that is the date of a message. -/
def isMessageDate (s : String) : Bool :=
  (messageDate? s).isSome

end TableFeed.Calendar
