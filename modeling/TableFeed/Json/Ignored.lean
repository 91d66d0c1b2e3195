import TableFeed.Json.Parser

/-!
# Passing over JSON values

A field that nobody asks for is read only as far as its syntax: numbers of any size, strings with
any escapes, and values nested to any depth pass.
-/

namespace TableFeed.Json.Read

/-- The exponent of a number, behind its `e`. -/
def skipExponent (bs : List UInt8) : Except Failure (List UInt8) :=
  let digits := match bs with
    | b :: bs' => if b = ascii '+' ∨ b = ascii '-' then bs' else bs
    | [] => []
  match digits with
  | [] => failHere .invalidNumber []
  | d :: ds => if isDigit d then .ok (ds.dropWhile isDigit) else failHere .invalidNumber ds

/-- A number behind its sign. -/
def skipNumber (bs : List UInt8) : Except Failure (List UInt8) :=
  let exponent (bs : List UInt8) : Except Failure (List UInt8) := match bs with
    | b :: rest => if b = ascii 'e' ∨ b = ascii 'E' then skipExponent rest else .ok bs
    | [] => .ok []
  match bs with
  | [] => failHere .invalidNumber []
  | b :: rest =>
    if ¬ isDigit b then failHere .invalidNumber rest
    else if b = ascii '0' ∧ rest.head?.any isDigit then failNext .invalidNumber rest
    else
      match bs.dropWhile isDigit with
      | [] => .ok []
      | c :: rest =>
        if c = ascii '.' then
          if rest.head?.any isDigit then exponent (rest.dropWhile isDigit)
          else failNext .invalidNumber rest
        else exponent (c :: rest)

/-- A string behind its opening quote. Each round takes at least one byte. -/
def skipString : Nat → List UInt8 → Except Failure (List UInt8)
  | 0, _ => failHere .eofString []
  | _ + 1, [] => failHere .eofString []
  | rounds + 1, b :: rest =>
    if b = ascii '"' then .ok rest
    else if b = ascii '\\' then
      match rest with
      | [] => failHere .eofString []
      | c :: rest =>
        if c = ascii 'u' then do
          let (_, rest) ← hexEscape rest
          skipString rounds rest
        else if (simpleEscape? c).isSome then skipString rounds rest
        else failHere .invalidEscape rest
    else if b < 0x20 then failHere .controlCharacter (b :: rest)
    else skipString rounds rest

/-- What encloses the place of the next value. -/
inductive Frame where
  | list
  | object
  deriving DecidableEq, Repr

/-- Goes on behind a value (`comma` allowed) or behind an opening bracket: closes every bracket
that ends here. Gives the frames that enclose the next value, none if there is no next one. -/
def closeFrames : Bool → List Frame → List UInt8 → Reading (List Frame)
  | _, [], bs => .ok ([], bs)
  | comma, frame :: frames, bs =>
    match skipSpace bs with
    | [] => failNext (match frame with | .list => .eofList | .object => .eofObject) []
    | b :: rest =>
      if comma ∧ b = ascii ',' then .ok (frame :: frames, rest)
      else if b = (match frame with | .list => ascii ']' | .object => ascii '\x7d') then
        closeFrames true frames rest
      else if comma then
        failNext (match frame with
          | .list => .expectedListCommaOrEnd
          | .object => .expectedObjectCommaOrEnd) (b :: rest)
      else .ok (frame :: frames, b :: rest)

/-- The name and the colon in front of a value inside an object. -/
def skipName (bs : List UInt8) : Except Failure (List UInt8) :=
  match skipSpace bs with
  | [] => failNext .eofObject []
  | b :: rest =>
    if b = ascii '"' then do
      let rest ← skipString (rest.length + 1) rest
      colon rest
    else failNext .keyMustBeString (b :: rest)

/-- Passes over values until no bracket is open. Each round takes at least one byte. -/
def skipValues : Nat → List Frame → List UInt8 → Except Failure (List UInt8)
  | 0, _, bs => failNext .eofValue bs
  | rounds + 1, frames, bs => do
    let (opened, rest) ← (match skipSpace bs with
      | [] => failNext .eofValue []
      | b :: rest =>
        if b = ascii 'n' then (word "ull".toList rest).map (none, ·)
        else if b = ascii 't' then (word "rue".toList rest).map (none, ·)
        else if b = ascii 'f' then (word "alse".toList rest).map (none, ·)
        else if b = ascii '-' then (skipNumber rest).map (none, ·)
        else if isDigit b then (skipNumber (b :: rest)).map (none, ·)
        else if b = ascii '"' then (skipString (rest.length + 1) rest).map (none, ·)
        else if b = ascii '[' then .ok (some Frame.list, rest)
        else if b = ascii '\x7b' then .ok (some Frame.object, rest)
        else failNext .expectedValue (b :: rest) : Except Failure (Option Frame × List UInt8))
    let (frames, rest) ← closeFrames opened.isNone (opened.toList ++ frames) rest
    match frames with
    | [] => .ok rest
    | .list :: _ => skipValues rounds frames rest
    | .object :: _ => skipValues rounds frames (← skipName rest)

/-- Passes over one value. -/
def skipValue (bs : List UInt8) : Except Failure (List UInt8) :=
  skipValues (bs.length + 1) [] bs

end TableFeed.Json.Read
