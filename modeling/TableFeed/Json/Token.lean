import TableFeed.Json.Failure

/-!
# JSON tokens

Readers for the parts of a JSON text: white space, the three words, numbers and strings. Each takes
the bytes that are left and gives what it read with the bytes after it.

A number's digits go into a significand of 64 bits for as long as they fit; the digits after that
count only for their place. A floating-point number is that significand, rounded, multiplied or
divided by a rounded power of ten, so its last bit may differ from the nearest number's.
-/

namespace TableFeed.Json.Read

/-- The result of reading a part of a text. -/
abbrev Reading (α : Type) := Except Failure (α × List UInt8)

/-- A fault found behind the bytes read so far. -/
def failHere {α : Type} (cause : Cause) (rest : List UInt8) : Except Failure α :=
  .error ⟨cause, rest.length⟩

/-- A fault of the next byte, placed behind it. -/
def failNext {α : Type} (cause : Cause) (rest : List UInt8) : Except Failure α :=
  .error ⟨cause, rest.length - 1⟩

/-- The byte of an ASCII character. -/
def ascii (c : Char) : UInt8 :=
  c.toNat.toUInt8

/-- JSON white space. -/
def isSpace (b : UInt8) : Bool :=
  b == 0x20 || b == 0x09 || b == 0x0A || b == 0x0D

/-- The bytes from the first one that is no white space. -/
def skipSpace (bs : List UInt8) : List UInt8 :=
  bs.dropWhile isSpace

/-- A decimal digit. -/
def isDigit (b : UInt8) : Bool :=
  0x30 ≤ b && b ≤ 0x39

/-- The number a decimal digit stands for. -/
def digitValue (b : UInt8) : Nat :=
  b.toNat - 0x30

/-! ### Words -/

/-- The rest of a word whose first letter has been read. -/
def word : List Char → List UInt8 → Except Failure (List UInt8)
  | [], bs => .ok bs
  | _ :: _, [] => failHere .eofValue []
  | c :: cs, b :: bs => if b = ascii c then word cs bs else failHere .expectedIdent bs

/-! ### Numbers -/

/-- The greatest significand. -/
def maxSignificand : Nat := UInt64.size - 1

/-- The digits appended to a significand while it stays within 64 bits: the significand, how many
digits it took and how many it left. -/
def appendDigits : Nat → List UInt8 → Nat × Nat × Nat
  | n, [] => (n, 0, 0)
  | n, d :: ds =>
    let n' := 10 * n + digitValue d
    if n' ≤ maxSignificand then
      let (m, taken, dropped) := appendDigits n' ds
      (m, taken + 1, dropped)
    else (n, 0, (d :: ds).length)

/-- The exponent written by digits, with what follows them; none once it exceeds 31 bits, with what
follows the digit that makes it so. -/
def exponentDigits : Nat → List UInt8 → Option Nat × List UInt8
  | n, [] => (some n, [])
  | n, b :: bs =>
    if isDigit b then
      let n' := 10 * n + digitValue b
      if n' < Nat.pow 2 31 then exponentDigits n' bs else (none, bs)
    else (some n, b :: bs)

/-- A power of ten rounded to the nearest number. -/
def powerOfTen (n : Nat) : Nat × Int :=
  match Binary64.ofRatio false (Nat.pow 10 n) 1 with
  | .finite _ m e => (m, e)
  | _ => (0, 0)

/-- The product of two finite numbers, rounded. -/
def product (m : Nat) (e : Int) (m' : Nat) (e' : Int) : Binary64 :=
  let (n, d) := Binary64.ratio (m * m') (e + e')
  Binary64.ofRatio false n d

/-- The quotient of two finite numbers, rounded. -/
def quotient (m : Nat) (e : Int) (m' : Nat) (e' : Int) : Binary64 :=
  let (n, d) := Binary64.ratio 1 (e - e')
  Binary64.ofRatio false (m * n) (m' * d)

/-- A finite number times a power of ten; none if the result is beyond the format. Divisors beyond
`10 ^ 308` are applied in steps of that size, of which three take every significand to zero. -/
def scaleByTen : Nat → Nat → Int → Int → Option Binary64
  | steps, m, e, power =>
    if m = 0 then some (.zero false)
    else if 308 < power then none
    else if 0 ≤ power then
      let (m', e') := powerOfTen power.toNat
      let x := product m e m' e'
      if x.isFinite then some x else none
    else if -308 ≤ power then
      let (m', e') := powerOfTen (-power).toNat
      some (quotient m e m' e')
    else match steps with
      | 0 => some (.zero false)
      | steps + 1 =>
        let (m', e') := powerOfTen 308
        match quotient m e m' e' with
        | .finite _ m e => scaleByTen steps m e (power + 308)
        | _ => none

/-- The floating-point number of a significand and a power of ten. -/
def scaled (negative : Bool) (significand : Nat) (power : Int) (rest : List UInt8) :
    Reading Json :=
  let number := match Binary64.ofInt significand with
    | .finite _ m e => scaleByTen 3 m e power
    | _ => none
  match number with
  | none => failHere .numberOutOfRange rest
  | some x => .ok (.float (if negative then x.neg else x), rest)

/-- The greatest power of ten that is counted. -/
def maxPower : Int := Nat.pow 2 31 - 1

/-- The exponent of a number, behind its `e`. -/
def exponentPart (negative : Bool) (significand : Nat) (power : Int) (bs : List UInt8) :
    Reading Json :=
  let (below, digits) := match bs with
    | b :: bs' =>
      if b = ascii '+' then (false, bs') else if b = ascii '-' then (true, bs') else (false, bs)
    | [] => (false, [])
  match digits with
  | [] => failHere .eofValue []
  | d :: ds =>
    if isDigit d then
      match exponentDigits (digitValue d) ds with
      | (some n, rest) =>
        let power := if below then max (-maxPower - 1) (power - n) else min maxPower (power + n)
        scaled negative significand power rest
      | (none, rest) =>
        if significand ≠ 0 ∧ below = false then failHere .numberOutOfRange rest
        else .ok (.float (.zero negative), rest.dropWhile isDigit)
    else failHere .invalidNumber ds

/-- What may follow the digits of a number that has a point or too many digits. -/
def afterDigits (negative : Bool) (significand : Nat) (power : Int) (bs : List UInt8) :
    Reading Json :=
  match bs with
  | b :: rest =>
    if b = ascii 'e' ∨ b = ascii 'E' then exponentPart negative significand power rest
    else scaled negative significand power bs
  | [] => scaled negative significand power []

/-- The digits behind the point of a number. -/
def fractionPart (negative : Bool) (significand : Nat) (power : Int) (bs : List UInt8) :
    Reading Json :=
  let digits := bs.takeWhile isDigit
  let rest := bs.dropWhile isDigit
  match digits, rest with
  | [], [] => failHere .eofValue []
  | [], _ :: _ => failNext .invalidNumber rest
  | _ :: _, _ =>
    let (n, taken, _) := appendDigits significand digits
    afterDigits negative n (power - taken) rest

/-- A whole number: one without a sign of at most 64 bits, or a negative one of at most 63 and its
sign; beyond that, and for a negative zero, a floating-point number. -/
def wholeNumber (negative : Bool) (n : Nat) : Json :=
  if negative = false then .int n
  else if n = 0 ∨ Nat.pow 2 63 < n then .float (Binary64.ofInt n).neg
  else .int (-(n : Int))

/-- A number behind its sign. -/
def number (negative : Bool) (bs : List UInt8) : Reading Json :=
  match bs with
  | [] => failHere .eofValue []
  | b :: rest =>
    if ¬ isDigit b then failHere .invalidNumber rest
    else if b = ascii '0' ∧ (rest.head?.any isDigit) then failNext .invalidNumber rest
    else
      let (n, _, dropped) := appendDigits 0 (bs.takeWhile isDigit)
      let rest := bs.dropWhile isDigit
      let ended : Reading Json :=
        if dropped = 0 then .ok (wholeNumber negative n, rest) else scaled negative n dropped rest
      match rest with
      | [] => ended
      | c :: rest' =>
        if c = ascii '.' then fractionPart negative n dropped rest'
        else if c = ascii 'e' ∨ c = ascii 'E' then exponentPart negative n dropped rest'
        else ended

/-- The number that a whole text is, white space aside. -/
def isNumber (bs : List UInt8) : Bool :=
  let result := match skipSpace bs with
    | b :: rest => if b = ascii '-' then number true rest else number false (b :: rest)
    | [] => failHere .eofValue []
  match result with
  | .ok (_, rest) => (skipSpace rest).isEmpty
  | .error _ => false

/-! ### Strings -/

/-- The number that four hexadecimal digits stand for. -/
def hex4? (a b c d : UInt8) : Option Nat := do
  let digit (x : UInt8) := Digits.hexValue? (Char.ofNat x.toNat)
  let a ← digit a
  let b ← digit b
  let c ← digit c
  let d ← digit d
  some (((a * 16 + b) * 16 + c) * 16 + d)

/-- The four hexadecimal digits behind `\u`. -/
def hexEscape : List UInt8 → Reading Nat
  | a :: b :: c :: d :: rest =>
    match hex4? a b c d with
    | some n => .ok (n, rest)
    | none => failHere .invalidEscape rest
  | _ => failHere .eofString []

/-- The bytes of a character given by its number. -/
def charBytes (n : Nat) : List UInt8 :=
  String.utf8EncodeChar (Char.ofNat n)

/-- The character behind `\u`; a number above U+FFFF takes two escapes, a leading and a trailing
surrogate. -/
def unicodeEscape (bs : List UInt8) : Except Failure (List UInt8 × List UInt8) := do
  let (n, rest) ← hexEscape bs
  if 0xDC00 ≤ n ∧ n ≤ 0xDFFF then failHere .loneLeadingSurrogate rest
  else if n < 0xD800 ∨ 0xDBFF < n then .ok (charBytes n, rest)
  else
    match rest with
    | [] => failHere .eofString []
    | b :: rest =>
      if b ≠ ascii '\\' then failHere .unexpectedEndOfHexEscape rest
      else match rest with
        | [] => failHere .eofString []
        | u :: rest =>
          if u ≠ ascii 'u' then failHere .unexpectedEndOfHexEscape rest
          else do
            let (m, rest) ← hexEscape rest
            if m < 0xDC00 ∨ 0xDFFF < m then failHere .loneLeadingSurrogate rest
            else .ok (charBytes ((n - 0xD800) * 0x400 + (m - 0xDC00) + 0x10000), rest)

/-- The character that a letter stands for behind a backslash. -/
def simpleEscape? (b : UInt8) : Option UInt8 :=
  if b = ascii '"' ∨ b = ascii '\\' ∨ b = ascii '/' then some b
  else if b = ascii 'b' then some 0x08
  else if b = ascii 'f' then some 0x0C
  else if b = ascii 'n' then some 0x0A
  else if b = ascii 'r' then some 0x0D
  else if b = ascii 't' then some 0x09
  else none

/-- What stands behind a backslash. -/
def escapeSequence : List UInt8 → Reading (List UInt8)
  | [] => failHere .eofString []
  | b :: rest =>
    if b = ascii 'u' then unicodeEscape rest
    else match simpleEscape? b with
      | some c => .ok ([c], rest)
      | none => failHere .invalidEscape rest

/-- The bytes of a string up to its closing quote, with what follows it; `read` holds the bytes so
far, last first. Each round takes at least one byte. -/
def stringBytes :
    Nat → List UInt8 → List UInt8 → Except Failure (List UInt8 × List UInt8)
  | 0, _, _ => failHere .eofString []
  | _ + 1, _, [] => failHere .eofString []
  | rounds + 1, read, b :: rest =>
    if b = ascii '"' then .ok (read.reverse, rest)
    else if b = ascii '\\' then do
      let (c, rest) ← escapeSequence rest
      stringBytes rounds (c.reverse ++ read) rest
    else if b < 0x20 then failHere .controlCharacter rest
    else stringBytes rounds (b :: read) rest

/-- A string behind its opening quote. -/
def string (bs : List UInt8) : Except Failure (String × List UInt8) := do
  let (content, rest) ← stringBytes (bs.length + 1) [] bs
  match Utf8.decode? content with
  | some s => .ok (s, rest)
  | none => failHere .invalidCodePoint rest

end TableFeed.Json.Read
