import TableFeed.Database.Bytes
import TableFeed.Number.Shortest

/-!
# Decimal numbers of the database

A decimal of the database comes as groups of four digits. It is held as a whole number of at most
96 bits and a scale: the number of its digits behind the point. Digits that do not fit are rounded
away, and the text shows as many digits behind the point as the database does.
-/

namespace TableFeed

/-- A decimal: `± mantissa / 10 ^ scale`. -/
structure Decimal96 where
  negative : Bool := false
  mantissa : Nat := 0
  scale : Nat := 0
  deriving DecidableEq, Repr

namespace Decimal96

/-- No mantissa has this many units. -/
def limit : Nat := Nat.pow 2 96

/-- The most digits behind the point that are computed with. -/
def maxScale : Nat := 28

/-- A quotient rounded to the nearest whole number, a half to the even one. -/
def divideEven (n d : Nat) : Nat :=
  Binary64.roundQuotient n d

/-- The mantissa and scale with the fewest digits rounded away that make the mantissa fit. -/
def fit : Nat → Nat → Nat → Option (Nat × Nat)
  | 0, n, drop =>
    let q := divideEven n (Nat.pow 10 drop)
    if q < limit then some (q, 0) else none
  | scale + 1, n, drop =>
    let q := divideEven n (Nat.pow 10 drop)
    if q < limit then some (q, scale + 1) else fit scale n (drop + 1)

/-- The sum of a magnitude and `n / 10 ^ maxScale`. -/
def addUnits (d : Decimal96) (n : Nat) : Option Decimal96 :=
  let total := d.mantissa * Nat.pow 10 (maxScale - d.scale) + n
  (fit maxScale total 0).map fun (mantissa, scale) => { d with mantissa, scale }

/-- The whole part: groups of digits from the left, with `shift` groups of zeros behind them. -/
def ofGroups (groups : List Nat) (shift : Nat) : Option Nat :=
  let step (n : Option Nat) (group : Nat) : Option Nat :=
    n.bind fun n => if 10000 * n + group < limit then some (10000 * n + group) else none
  (groups.foldl step (some 0)).bind fun n =>
    let unit := Nat.pow 10 (4 * shift)
    if n * unit < limit ∧ unit < limit then some (n * unit) else none

/-- Adds groups of digits behind the point, the first of which ends at a place. The group that
begins at the last place computed with rounds it. -/
def addFraction : Nat → List Nat → Decimal96 → Option Decimal96
  | _, [], d => some d
  | place, group :: rest, d =>
    let units :=
      if place ≤ maxScale then group * Nat.pow 10 (maxScale - place)
      else if place = maxScale + 4 ∧ 5000 ≤ group then 1
      else 0
    (if units = 0 then some d else d.addUnits units).bind (addFraction (place + 4) rest)

/-- Multiplies mantissa and scale by ten so many times, as long as the mantissa fits. -/
def widen : Nat → Decimal96 → Decimal96
  | 0, d => d
  | n + 1, d =>
    if 10 * d.mantissa < limit then
      widen n { d with mantissa := 10 * d.mantissa, scale := d.scale + 1 }
    else d

/-- A decimal shown with a number of digits behind the point, but never with more than are computed
with: digits too many are rounded away, a half away from zero; digits that are missing are zeros, as
long as the mantissa fits. -/
def rescale (d : Decimal96) (scale : Nat) : Decimal96 :=
  let shown := min scale maxScale
  if d.mantissa = 0 then { d with scale := shown }
  else if shown < d.scale then
    let unit := Nat.pow 10 (d.scale - shown)
    { d with mantissa := (2 * d.mantissa + unit) / (2 * unit), scale := shown }
  else widen (shown - d.scale) d

/-- The text of a decimal. -/
def text (d : Decimal96) : String :=
  let digits := toString d.mantissa
  Shortest.sign d.negative ++ if d.scale = 0 then digits else Shortest.withPoint digits d.scale

/-- So many groups of digits. -/
def readGroups : Nat → List UInt8 → Except CellError (List Nat)
  | 0, _ => .ok []
  | n + 1, bs => do
    let (group, rest) ← Bytes.number 2 bs
    return group :: (← readGroups n rest)

/-- The decimal that the groups of a cell denote: `weight` is the power of 10000 of the first. -/
def ofParts (negative : Bool) (weight : Int) (scale : Nat) (groups : List Nat) :
    Option Decimal96 := do
  let wholeGroups := (weight + 1).toNat
  let whole ← ofGroups (groups.take wholeGroups) (wholeGroups - groups.length)
  let skipped := (-weight - 1).toNat
  let d ← addFraction (4 * (skipped + 1)) (groups.drop wholeGroups) { mantissa := whole }
  return rescale { d with negative } scale

/-- The decimal in the bytes of a cell. -/
def ofBytes (bs : List UInt8) : Except CellError Decimal96 := do
  let (count, rest) ← Bytes.number 2 bs
  let (weight, rest) ← Bytes.number 2 rest
  let (sign, rest) ← Bytes.number 2 rest
  let (scale, rest) ← Bytes.number 2 rest
  if sign = 0xC000 then throw .notANumber
  if sign = 0xD000 then throw .infinity
  if sign = 0xF000 then throw .negativeInfinity
  let groups ← readGroups count rest
  match ofParts (sign = 0x4000) (Bytes.signed 16 weight) scale groups with
  | some d => return d
  | none => throw .numericRange

end Decimal96

end TableFeed
