import TableFeed.Calendar.Date
import TableFeed.Text.Blank
import TableFeed.Text.Digits

/-!
# Parts of a date in text

Readers for the numbers, names and offsets that dates are made of. Each takes the characters that
are left and gives what it read with those after it.
-/

namespace TableFeed.Calendar

/-- The result of reading a part of a text, if the part is there. -/
abbrev Scan (α : Type) := Option (α × List Char)

/-- The characters from the first one that is no white space. -/
def skipBlank (cs : List Char) : List Char :=
  cs.dropWhile Blank.isBlank

/-- At least one character of white space. -/
def blank (cs : List Char) : Option (List Char) :=
  match cs with
  | [] => none
  | c :: _ => if Blank.isBlank c then some (skipBlank cs) else none

/-- A character. -/
def exactly (c : Char) : List Char → Option (List Char)
  | [] => none
  | d :: rest => if d = c then some rest else none

/-- The digits at the front of a text, at most a number of them. -/
def digitsUpTo (most : Nat) (cs : List Char) : List Char :=
  (cs.take most).takeWhile Char.isDigit

/-- A number of at least `least` and at most `most` digits. -/
def number (least most : Nat) (cs : List Char) : Option (Nat × List Char) :=
  let ds := digitsUpTo most cs
  if ds.length < least then none else some (Digits.toNat ds, cs.drop ds.length)

/-- A number of at least `least` digits. -/
def longNumber (least : Nat) (cs : List Char) : Option (Nat × List Char) :=
  number least cs.length cs

/-- The index of the three-letter name at the front of a text, in either case. -/
def shortName (names : List String) (cs : List Char) : Option (Nat × List Char) :=
  let word := String.ofList ((cs.take 3).map Char.toLower)
  match names.idxOf? word with
  | some i => some (i, cs.drop 3)
  | none => none

/-- The sign of an offset; the typographical minus counts where `minus` says so. -/
def sign (minus : Bool) : List Char → Option (Bool × List Char)
  | '+' :: rest => some (false, rest)
  | '-' :: rest => some (true, rest)
  | c :: rest => if minus ∧ c = '\u2212' then some (true, rest) else none
  | [] => none

/-- An offset in seconds: a sign, two digits of hours, what `between` takes, two digits of
minutes. -/
def offset (minus : Bool) (between : List Char → Option (List Char)) (cs : List Char) :
    Option (Int × List Char) := do
  let (negative, rest) ← sign minus cs
  let (hours, rest) ← number 2 2 rest
  let rest ← between rest
  let (minutes, rest) ← number 2 2 rest
  if 59 < minutes then none
  else
    let seconds : Int := hours * 3600 + minutes * 60
    some (if negative then -seconds else seconds, rest)

/-- The optional fraction of a second: a point with digits behind it. -/
def fraction : List Char → Option (List Char)
  | '.' :: rest => (longNumber 1 rest).map (·.2)
  | rest => some rest

end TableFeed.Calendar
