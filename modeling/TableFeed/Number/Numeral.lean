import TableFeed.Number.Binary64
import TableFeed.Text.Digits

/-!
# Numerals

The grammar of a floating-point number in text: an optional sign, then digits with an optional
point among them and an optional exponent, or one of the words `inf`, `infinity` and `nan` in any
case. `Numeral.parse?` reads one; `Numeral.toBinary64` rounds it.
-/

namespace TableFeed

/-- A numeral of the grammar. -/
inductive Numeral where
  /-- The number `± digits * 10 ^ exponent`. -/
  | decimal (negative : Bool) (digits : Nat) (exponent : Int)
  | infinity (negative : Bool)
  | notANumber
  deriving DecidableEq, Repr

namespace Numeral

/-- The exponent part at the end of a numeral: nothing, or `e` with an optional sign and digits. -/
def exponent? : List Char → Option Int
  | [] => some 0
  | c :: rest =>
    if c = 'e' ∨ c = 'E' then Digits.integer? rest else none

/-- Digits with an optional point among them, and an exponent. -/
def unsigned? (cs : List Char) : Option (Nat × Int) :=
  let (whole, rest) := Digits.span cs
  let (fraction, rest) := match rest with
    | '.' :: rest => Digits.span rest
    | rest => ([], rest)
  if whole = [] ∧ fraction = [] then none
  else (exponent? rest).map fun e =>
    (Digits.toNat (whole ++ fraction), e - fraction.length)

/-- The sign at the front of a numeral and what follows it. -/
def splitSign : List Char → Bool × List Char
  | '-' :: rest => (true, rest)
  | '+' :: rest => (false, rest)
  | rest => (false, rest)

/-- The numeral that a text is. -/
def parse? (s : String) : Option Numeral :=
  let (negative, rest) := splitSign s.toList
  match unsigned? rest with
  | some (n, e) => some (.decimal negative n e)
  | none =>
    let word := rest.map Char.toLower
    if word = "inf".toList ∨ word = "infinity".toList then some (.infinity negative)
    else if word = "nan".toList then some .notANumber
    else none

/-- The number nearest to a numeral. -/
def toBinary64 : Numeral → Binary64
  | .decimal negative n e => Binary64.ofDecimal negative n e
  | .infinity negative => .infinite negative
  | .notANumber => .nan

end Numeral

/-- The number that a text denotes, rounded to the nearest one of the format. -/
def Binary64.parse? (s : String) : Option Binary64 :=
  (Numeral.parse? s).map Numeral.toBinary64

end TableFeed
