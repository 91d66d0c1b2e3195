import TableFeed.Calendar.Internet
import TableFeed.Calendar.Layout
import TableFeed.Json.Token
import TableFeed.Table.Cell

/-!
# Samples

A published cell is one measurement, written as an array that holds one object: its name and its
value under a tag. The text of the cell alone decides the tag: `v` for a finite number, `vb` for a
boolean, `vd` for a date and `vs` for any other text. A date stands without quotes.
-/

namespace TableFeed.Sample

/-- What a text is taken for. -/
inductive Kind where
  | numeric
  | boolean
  | date
  | text
  deriving DecidableEq, Repr

/-- The tag of a value of a kind. -/
def Kind.tag : Kind → String
  | .numeric => "v"
  | .boolean => "vb"
  | .date => "vd"
  | .text => "vs"

/-- A text that is a finite number. -/
def isNumeric (s : String) : Bool :=
  match Binary64.parse? s with
  | some x => x.isFinite
  | none => false

/-- A text that spells a boolean. -/
def isBoolean (s : String) : Bool :=
  (Cell.boolean? s).isSome

/-! ### Dates -/

/-- The beginnings of the names of the weekdays. -/
def weekdayStarts : List (List Char) :=
  ["Mon", "Tue", "Wed", "Thu", "Fri", "Sat", "Sun"].map String.toList

/-- A text without the weekday at its front: a name, an optional comma, white space. -/
def dropWeekday (cs : List Char) : List Char :=
  if cs.take 3 ∈ weekdayStarts then
    let rest := (cs.drop 3).dropWhile fun c => decide ('a' ≤ c ∧ c ≤ 'z')
    let rest := match rest with
      | ',' :: rest => rest
      | rest => rest
    match rest with
    | c :: _ => if Blank.isBlank c then rest.dropWhile Blank.isBlank else cs
    | [] => cs
  else cs

/-- A character of a word. A character beyond ASCII fits no layout, whatever word it belongs to,
but for white space and the typographical minus of an offset. -/
def isWordChar (c : Char) : Bool :=
  c.isAlphanum || c = '_' || (0x80 ≤ c.toNat && c ≠ '\u2212' && !Blank.isBlank c)

/-- A word that stands for a time zone: three to five capital letters. -/
def isZoneWord (word : List Char) : Bool :=
  3 ≤ word.length && word.length ≤ 5 && word.all Char.isUpper

/-- A word that is being read, its last character first, with a space in place of a time zone. -/
def wordText (word : List Char) : List Char :=
  if isZoneWord word then [' '] else word.reverse

/-- A text with a space in place of every time zone; `word` holds the word being read, its last
character first. -/
def dropZonesFrom : List Char → List Char → List Char
  | word, [] => wordText word
  | word, c :: rest =>
    if isWordChar c then dropZonesFrom (c :: word) rest
    else wordText word ++ c :: dropZonesFrom [] rest

/-- A text without weekday and time zones, its words one space apart. -/
def normalize (cs : List Char) : List Char :=
  Blank.collapse (dropZonesFrom [] (dropWeekday (Blank.trimChars cs)))

open Calendar (Part)

/-- The layouts of a normalized date. -/
def layouts : List (List Part) :=
  let clock := Calendar.clock
  [ [.month, .space, .day, .space] ++ clock ++ [.space, .year],
    [.day, .space, .month, .space, .shortYear, .space, .hour, .literal ':', .minute],
    [.day, .literal '-', .month, .literal '-', .shortYear, .space] ++ clock,
    [.day, .space, .month, .space, .year, .space] ++ clock,
    [.month, .space, .day, .space] ++ clock ++ [.space, .offset, .space, .year],
    [.day, .space, .month, .space, .shortYear, .space, .hour, .literal ':', .minute, .space,
      .offset],
    [.day, .space, .month, .space, .year, .space] ++ clock ++ [.space, .offset] ]

/-- The layout of a stamp without a year, with a leap year put in front of it. -/
def stampLayout : List Part :=
  [.year, .space, .month, .space, .day, .space] ++ Calendar.clock ++ [.fraction]

/-- The year put in front of a stamp. -/
def stampYear : List Char := "2000 ".toList

/-- A text that is a date in one of the usual forms. -/
def isDate (s : String) : Bool :=
  Calendar.isTimestamp s || Calendar.isMessageDate s ||
    let cs := normalize s.toList
    !cs.isEmpty && (layouts.any (Calendar.fits · cs) || Calendar.fits stampLayout (stampYear ++ cs))

/-! ### Encoding -/

/-- What a text is taken for: the first of number, boolean and date that it is. -/
def classify (s : String) : Kind :=
  if isNumeric s then .numeric
  else if isBoolean s then .boolean
  else if isDate s then .date
  else .text

/-- A number as JSON: the text itself where it is a JSON number, else the number it denotes. -/
def numericLiteral (s : String) : String :=
  if Json.Read.isNumber (Utf8.bytes s) then s
  else
    match Binary64.parse? s with
    | some (.finite negative m e) => Shortest.json negative m e
    | _ => Json.quote s

/-- The value of a sample. -/
def literal (s : String) : String :=
  match classify s with
  | .numeric => numericLiteral s
  | .boolean => toString ((Cell.boolean? s).getD false)
  | .date => s
  | .text => Json.quote s

/-- The sample of a text under a name. -/
def encode (name s : String) : String :=
  "[\x7b\"n\":" ++ Json.quote name ++ ",\"" ++ (classify s).tag ++ "\":" ++ literal s ++ "\x7d]"

end TableFeed.Sample
