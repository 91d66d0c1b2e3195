import TableFeed.Calendar.Scan

/-!
# Date layouts

A layout is a list of parts. White space in a layout stands for any amount of it, none included,
and numbers may have white space in front of them. A text fits a layout if the parts take all of it
and what they read is a date and time.
-/

namespace TableFeed.Calendar

/-- A part of a layout. -/
inductive Part where
  | literal (c : Char)
  | space
  /-- Up to four digits, or a sign and any number of digits. -/
  | year
  /-- The year as two digits: 00 to 69 are of this century, 70 to 99 of the last. -/
  | shortYear
  /-- A name of three letters. -/
  | month
  | day
  | hour
  | minute
  | second
  /-- An optional fraction of a second. -/
  | fraction
  /-- A signed offset from universal time. -/
  | offset
  deriving DecidableEq, Repr

/-- What the parts of a layout have read. -/
structure Reading where
  year : Option Int := none
  month : Nat := 0
  day : Nat := 0
  hour : Nat := 0
  minute : Nat := 0
  second : Nat := 0
  offset : Int := 0
  deriving Repr

/-- A year that may have a sign. -/
def signedYear : List Char → Option (Int × List Char)
  | '-' :: rest => (longNumber 1 rest).map fun (n, rest) => (-(n : Int), rest)
  | '+' :: rest => (longNumber 1 rest).map fun (n, rest) => ((n : Int), rest)
  | rest => (number 1 4 rest).map fun (n, rest) => ((n : Int), rest)

/-- The year that two digits stand for. -/
def century (n : Nat) : Int :=
  if n < 70 then 2000 + n else 1900 + n

/-- The characters behind any colons and white space. -/
def skipColons (cs : List Char) : Option (List Char) :=
  some (cs.dropWhile fun c => c = ':' || Blank.isBlank c)

/-- Reads one part. -/
def Part.read (r : Reading) (cs : List Char) : Part → Option (Reading × List Char)
  | .literal c => (exactly c cs).map (r, ·)
  | .space => some (r, skipBlank cs)
  | .year => (signedYear (skipBlank cs)).map fun (n, rest) => ({ r with year := some n }, rest)
  | .shortYear =>
    (number 1 2 (skipBlank cs)).map fun (n, rest) => ({ r with year := some (century n) }, rest)
  | .month =>
    (shortName Date.monthNames cs).map fun (i, rest) => ({ r with month := i + 1 }, rest)
  | .day => (number 1 2 (skipBlank cs)).map fun (n, rest) => ({ r with day := n }, rest)
  | .hour => (number 1 2 (skipBlank cs)).map fun (n, rest) => ({ r with hour := n }, rest)
  | .minute => (number 1 2 (skipBlank cs)).map fun (n, rest) => ({ r with minute := n }, rest)
  | .second => (number 1 2 (skipBlank cs)).map fun (n, rest) => ({ r with second := n }, rest)
  | .fraction => (Calendar.fraction cs).map (r, ·)
  | .offset =>
    (Calendar.offset true skipColons (skipBlank cs)).map fun (n, rest) =>
      ({ r with offset := n }, rest)

/-- Reads the parts of a layout in turn, up to the end of the text. -/
def readParts : List Part → Reading → List Char → Option Reading
  | [], r, [] => some r
  | [], _, _ :: _ => none
  | p :: ps, r, cs =>
    match p.read r cs with
    | none => none
    | some (r, rest) => readParts ps r rest

/-- The date and time that was read. -/
def Reading.dateTime (r : Reading) : DateTime :=
  ⟨⟨r.year.getD 0, r.month, r.day⟩, r.hour, r.minute, r.second⟩

/-- A text that is a date and time in a layout. -/
def fits (layout : List Part) (cs : List Char) : Bool :=
  match readParts layout {} cs with
  | none => false
  | some r => decide (r.dateTime.ValidAt r.offset)

/-- The hours, minutes and seconds of a layout. -/
def clock : List Part :=
  [.hour, .literal ':', .minute, .literal ':', .second]

end TableFeed.Calendar
