import TableFeed.Number.Binary64

/-!
# Shortest decimal text of a binary number

`Shortest.digits` finds the decimal with the fewest digits among those that round to a given
number, and of those the nearest. A format says which of two equally near ones is taken, and how
the digits are laid out: `plain` never writes an exponent, `scientific` writes one outside a range.
-/

namespace TableFeed.Shortest

/-- Which of two equally near decimals is taken. -/
inductive Tie where
  | up
  | even
  deriving DecidableEq, Repr

/-- A decimal, `digits * 10 ^ exponent`. -/
structure Decimal where
  digits : Nat
  exponent : Int
  deriving DecidableEq, Repr

/-- The numbers that round to `mantissa * 2 ^ exponent`, in quarters of `2 ^ exponent`: the least,
the number itself, the greatest. Below a power of two the neighbour is only half as far. -/
def quarters (mantissa : Nat) (exponent : Int) : Nat × Nat × Nat :=
  let low := if mantissa = Nat.pow 2 52 ∧ Binary64.minExponent < exponent then 1 else 2
  (4 * mantissa - low, 4 * mantissa, 4 * mantissa + 2)

/-- The power of ten of the leading digit of a positive fraction. -/
def leadingPower (num den : Nat) : Int :=
  if den ≤ num then ((toString (num / den)).length : Int) - 1
  else -((toString ((den + num - 1) / num - 1)).length : Int)

/-- The decimal with `count` digits that rounds to the number and is nearest to it, if there is
one. `num / den` is a quarter of the unit of the significand. -/
def atCount (tie : Tie) (mantissa : Nat) (bounds : Nat × Nat × Nat) (num den : Nat) (power : Int)
    (count : Nat) : Option Decimal :=
  let grid : Int := power - (count : Int) + 1
  -- In units of the grid, a quarter is `n / d`.
  let (n, d) :=
    if 0 ≤ grid then (num, den * Nat.pow 10 grid.toNat)
    else (num * Nat.pow 10 (-grid).toNat, den)
  let (low, middle, high) := bounds
  let inside (x : Nat) : Bool :=
    if mantissa % 2 = 0 then low * n ≤ x * d && x * d ≤ high * n
    else low * n < x * d && x * d < high * n
  let below := middle * n / d
  let above := below + 1
  let toBelow := middle * n - below * d
  let toAbove := above * d - middle * n
  match inside below, inside above with
  | false, false => none
  | true, false => some ⟨below, grid⟩
  | false, true => some ⟨above, grid⟩
  | true, true =>
    if toBelow < toAbove then some ⟨below, grid⟩
    else if toAbove < toBelow then some ⟨above, grid⟩
    else if tie = .even && below % 2 = 0 then some ⟨below, grid⟩
    else some ⟨above, grid⟩

/-- A decimal without zeros at the end of its digits. -/
def dropZeros : Nat → Decimal → Decimal
  | 0, d => d
  | fuel + 1, d =>
    if d.digits ≠ 0 ∧ d.digits % 10 = 0 then dropZeros fuel ⟨d.digits / 10, d.exponent + 1⟩ else d

/-- The decimal with the fewest digits that rounds to `mantissa * 2 ^ exponent`, the nearest of
them. Seventeen digits always suffice. -/
def digits (tie : Tie) (mantissa : Nat) (exponent : Int) : Decimal :=
  if mantissa = 0 then ⟨0, 0⟩
  else
    let (num, den) := Binary64.ratio 1 (exponent - 2)
    let power := leadingPower (4 * mantissa * num) den
    let bounds := quarters mantissa exponent
    let found := (List.range 17).findSome? fun i =>
      atCount tie mantissa bounds num den power (i + 1)
    match found with
    | some d => dropZeros 17 d
    | none => ⟨0, 0⟩

/-- A number of zeros. -/
def zeros (n : Nat) : String :=
  String.ofList (List.replicate n '0')

/-- Digits with a point before the last `places` of them. -/
def withPoint (ds : String) (places : Nat) : String :=
  if places < ds.length then
    let whole := ds.length - places
    String.ofList (ds.toList.take whole) ++ "." ++ String.ofList (ds.toList.drop whole)
  else "0." ++ zeros (places - ds.length) ++ ds

/-- A decimal in positional notation; a whole number has no point. -/
def positional (d : Decimal) : String :=
  let ds := toString d.digits
  if 0 ≤ d.exponent then (if d.digits = 0 then ds else ds ++ zeros d.exponent.toNat)
  else withPoint ds (-d.exponent).toNat

/-- The sign of a number. -/
def sign (negative : Bool) : String :=
  if negative then "-" else ""

/-- A number in positional notation: the fewest digits, never an exponent, no point in a whole
number. -/
def plain : Binary64 → String
  | .nan => "NaN"
  | .infinite negative => sign negative ++ "inf"
  | .finite negative m e => sign negative ++ positional (digits .up m e)

/-- A finite number as JSON: the fewest digits, a point in every positional one, and an exponent
below `1e-5` and from `1e16`. -/
def json (negative : Bool) (mantissa : Nat) (exponent : Int) : String :=
  if mantissa = 0 then sign negative ++ "0.0"
  else
    let d := digits .even mantissa exponent
    let ds := toString d.digits
    -- The place of the point, counted from the first digit.
    let point : Int := ds.length + d.exponent
    let text :=
      if 0 ≤ d.exponent ∧ point ≤ 16 then positional d ++ ".0"
      else if -5 < point ∧ point ≤ 16 then positional d
      else
        let power := point - 1
        let mark := if power < 0 then "e-" else "e+"
        let head := String.ofList (ds.toList.take 1)
        let tail := String.ofList (ds.toList.drop 1)
        let digits := if tail.isEmpty then head else head ++ "." ++ tail
        digits ++ mark ++ toString power.natAbs
    sign negative ++ text

end TableFeed.Shortest
