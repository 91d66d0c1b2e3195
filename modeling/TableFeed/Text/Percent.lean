import TableFeed.Text.Digits
import TableFeed.Text.Utf8

/-!
# Percent escapes

Text inside a URL: a byte that may not stand for itself is written as `%` and two hexadecimal
digits. `Percent.encode` escapes every byte but the unreserved ones; `Percent.decode` takes the
escapes back and leaves a `%` that begins none.
-/

namespace TableFeed.Percent

/-- The bytes that stand for themselves anywhere: ASCII letters and digits, `-`, `_`, `.`, `~`. -/
def isUnreserved (b : UInt8) : Bool :=
  let c := Char.ofNat b.toNat
  b < 0x80 && (c.isAlphanum || c = '-' || c = '_' || c = '.' || c = '~')

/-- The escape of a byte, in capitals. -/
def escape (b : UInt8) : List Char :=
  '%' :: (Digits.hexByte b).map Char.toUpper

/-- A text with all but the unreserved bytes escaped. -/
def encode (s : String) : String :=
  String.ofList <| (Utf8.bytes s).flatMap fun b =>
    if isUnreserved b then [Char.ofNat b.toNat] else escape b

/-- The value of a hexadecimal digit given as a byte. -/
def hexValue? (b : UInt8) : Option Nat :=
  Digits.hexValue? (Char.ofNat b.toNat)

/-- Bytes with the escapes taken back. -/
def decodeBytes : List UInt8 → List UInt8
  | [] => []
  | [a] => [a]
  | [a, b] => [a, b]
  | a :: b :: c :: rest =>
    if a = 0x25 then
      match hexValue? b, hexValue? c with
      | some h, some l => (h * 16 + l).toUInt8 :: decodeBytes rest
      | _, _ => a :: decodeBytes (b :: c :: rest)
    else a :: decodeBytes (b :: c :: rest)

/-- A text with the escapes taken back, if that is text again. -/
def decode (s : String) : Except Utf8.Malformed String :=
  Utf8.decode (decodeBytes (Utf8.bytes s))

end TableFeed.Percent
