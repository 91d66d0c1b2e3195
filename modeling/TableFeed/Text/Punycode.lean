import TableFeed.Text.Digits

/-!
# Encoded labels

A label of a domain name with characters outside ASCII is encoded in ASCII: its ASCII characters
come first, and a sequence of numbers behind them says which characters to insert where. Each
number is written in digits to the base 36, the low ones first; a digit below a threshold ends it,
and the threshold follows the size of the numbers before.
-/

namespace TableFeed.Punycode

/-- The value of a digit: letters first, in lower case, then the decimal digits. -/
def digit? (c : Char) : Option Nat :=
  if 'a' ≤ c ∧ c ≤ 'z' then some (c.toNat - 'a'.toNat)
  else if c.isDigit then some (Digits.value c + 26)
  else none

/-- The threshold below which the digit of a weight of rank `k` ends its number. -/
def threshold (k bias : Nat) : Nat :=
  min 26 (max 1 (k - bias))

/-- How often a number is divided by 35 until it is at most 455, and what remains. -/
def halve (delta k : Nat) : Nat × Nat :=
  if 455 < delta then halve (delta / 35) (k + 36) else (delta, k)
termination_by delta
decreasing_by exact Nat.div_lt_self (by omega) (by omega)

/-- The bias behind a number, when `count` characters stand; the first number is damped. -/
def adapt (delta count : Nat) (first : Bool) : Nat :=
  let delta := if first then delta / 700 else delta / 2
  let (delta, k) := halve (delta + delta / count) 0
  k + 36 * delta / (delta + 38)

/-- Where the decoding stands: the label so far, the next character and where it goes, and the
number that is being read. -/
structure State where
  label : List Char
  code : Nat := 128
  place : Nat := 0
  bias : Nat := 72
  /-- The place with the digits of the number that have been read. -/
  sum : Nat := 0
  weight : Nat := 1
  rank : Nat := 36
  deriving Repr

/-- The character of a code point, if it is one. -/
def char? (n : Nat) : Option Char :=
  if n.isValidChar then some (Char.ofNat n) else none

/-- Inserts the character that a complete number names. -/
def State.insert? (s : State) : Option State := do
  let count := s.label.length + 1
  let code := s.code + s.sum / count
  let place := s.sum % count
  let c ← char? code
  return { label := s.label.insertIdx place c, code, place := place + 1,
           bias := adapt (s.sum - s.place) count (s.place = 0), sum := place + 1 }

/-- Reads one digit. Numbers are words of 32 bits. -/
def State.step? (s : State) (c : Char) : Option State := do
  let d ← digit? c
  let t := threshold s.rank s.bias
  let s := { s with sum := s.sum + d * s.weight }
  if UInt32.size ≤ s.sum then none
  else if d < t then s.insert?
  else
    let weight := s.weight * (36 - t)
    if UInt32.size ≤ weight then none else some { s with weight, rank := s.rank + 36 }

/-- The label behind the digits; the last one has to end its number. -/
def State.run? : State → List Char → Option (List Char)
  | s, [] => if s.rank = 36 then some s.label else none
  | s, c :: rest => (s.step? c).bind (·.run? rest)

/-- The ASCII characters in front of the last hyphen, and the digits behind it. -/
def parts (cs : List Char) : List Char × List Char :=
  let digits := (cs.reverse.takeWhile (· ≠ '-')).reverse
  match cs.take (cs.length - digits.length) with
  | [] | [_] => ([], cs)
  | basic => (basic.dropLast, digits)

/-- The label that a text encodes. -/
def decode? (cs : List Char) : Option (List Char) :=
  let (basic, digits) := parts cs
  if basic.all (·.toNat < 0x80) then State.run? { label := basic } digits else none

end TableFeed.Punycode
