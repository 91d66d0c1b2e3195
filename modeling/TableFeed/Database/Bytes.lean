import TableFeed.Json.Parser

/-!
# Binary cells

Numbers in the bytes of a cell, the most significant byte first, and the ways in which the bytes of
a cell can fail to be a value of its type.
-/

namespace TableFeed

/-- Why the bytes of a cell are no value of its type. -/
inductive CellError where
  | tooShort
  | tooLong
  | notDrained (type : String)
  | outOfRange
  | uuidSize
  | treeVersion (type : String)
  | jsonVersion
  | json (cause : Json.Error)
  | text (cause : Utf8.Malformed)
  | addressFamily
  | addressMask (version : Nat)
  | addressLength (version : Nat)
  | notANumber
  | infinity
  | negativeInfinity
  | numericRange
  deriving Repr

/-- The wording of a cell's fault. -/
def CellError.message : CellError → String
  | .tooShort => "failed to fill whole buffer"
  | .tooLong => "invalid buffer size"
  | .notDrained type => s!"invalid message length: {type} not drained"
  | .outOfRange => "value too large to decode"
  | .uuidSize => "invalid message length: uuid size mismatch"
  | .treeVersion type => s!"{type} version 1 only supported"
  | .jsonVersion => "unsupported JSONB encoding version"
  | .json cause => cause.message
  | .text cause => cause.message
  | .addressFamily => "invalid IP family"
  | .addressMask version => s!"invalid IPv{version} netmask"
  | .addressLength version => s!"invalid IPv{version} address length"
  | .notANumber => "Error while converting to NaN"
  | .infinity => "Error while converting to Infinity"
  | .negativeInfinity => "Error while converting to -Infinity"
  | .numericRange => "Number exceeds maximum value that can be represented."

namespace Bytes

/-- The number that bytes denote, the most significant first. -/
def toNat (bs : List UInt8) : Nat :=
  bs.foldl (fun n b => 256 * n + b.toNat) 0

/-- A number of so many bits, read as one with a sign. -/
def signed (bits n : Nat) : Int :=
  if n < Nat.pow 2 (bits - 1) then n else (n : Int) - Nat.pow 2 bits

/-- The number in the first bytes of a cell, and the bytes behind them. -/
def number (size : Nat) (bs : List UInt8) : Except CellError (Nat × List UInt8) :=
  if bs.length < size then .error .tooShort else .ok (toNat (bs.take size), bs.drop size)

/-- The number that a cell of so many bytes is; more bytes are the given fault. -/
def whole (size : Nat) (extra : CellError) (bs : List UInt8) : Except CellError Nat := do
  let (n, rest) ← number size bs
  if rest = [] then return n else throw extra

/-- The number with a sign that a cell of so many bytes is. -/
def wholeSigned (size : Nat) (extra : CellError) (bs : List UInt8) : Except CellError Int :=
  (whole size extra bs).map (signed (8 * size))

end Bytes

end TableFeed
