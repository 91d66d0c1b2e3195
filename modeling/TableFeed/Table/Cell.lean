import TableFeed.Number.Shortest
import TableFeed.Number.Numeral

/-!
# Cells

A cell holds a whole number, a floating-point number, a boolean or a text. `Cell.infer` types a
text cell by trying these in turn; `Cell.display` is how a cell is written when it is published.
-/

namespace TableFeed

/-- A value of a table; an absent one is `none` where cells stand. -/
inductive Cell where
  /-- A whole number with a sign. -/
  | int (i : Int)
  /-- A whole number from zero that needs the sign's bit. -/
  | uint (n : Nat)
  | float (x : Binary64)
  | bool (b : Bool)
  | text (s : String)
  deriving DecidableEq, Repr

namespace Cell

/-- The spellings of true. -/
def trueSpellings : List String :=
  ["1", "t", "T", "TRUE", "true", "True"]

/-- The spellings of false. -/
def falseSpellings : List String :=
  ["0", "f", "F", "FALSE", "false", "False"]

/-- The boolean that a text spells. -/
def boolean? (s : String) : Option Bool :=
  if s ∈ trueSpellings then some true
  else if s ∈ falseSpellings then some false
  else none

/-- The cell of a text: the first of signed, unsigned, floating-point and boolean that the text is,
else the text itself. -/
def infer (s : String) : Cell :=
  match Digits.signed64? s with
  | some i => .int i
  | none =>
    match Digits.unsigned64? s with
    | some n => .uint n
    | none =>
      match Binary64.parse? s with
      | some x => .float x
      | none =>
        match boolean? s with
        | some b => .bool b
        | none => .text s

/-- The text of a cell. -/
def display : Cell → String
  | .int i => toString i
  | .uint n => toString n
  | .float x => Shortest.plain x
  | .bool b => toString b
  | .text s => s

end Cell

end TableFeed
