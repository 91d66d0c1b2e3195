import TableFeed.Json.Token

/-!
# Reading JSON values

`Json.parse` reads a text that is one value, white space around it aside. Values nest at most 127
deep. The readers of items and fields take the reader of a value, so that one for the next level
is made from one for the level below.
-/

namespace TableFeed.Json

namespace Read

/-- How deep values may nest. -/
def maxDepth : Nat := 127

/-- The items of an array up to its closing bracket, those read so far first. `first` says that no
item has been read. -/
def items (value : List UInt8 → Reading Json) :
    Nat → Bool → List Json → List UInt8 → Except Failure (List Json × List UInt8)
  | 0, _, _, bs => failNext .eofList bs
  | rounds + 1, first, read, bs =>
    match skipSpace bs with
    | [] => failNext .eofList []
    | b :: rest =>
      if b = ascii ']' then .ok (read, rest)
      else if first then do
        let (v, rest) ← value (b :: rest)
        items value rounds false (read ++ [v]) rest
      else if b = ascii ',' then
        match skipSpace rest with
        | [] => failNext .eofValue []
        | c :: rest =>
          if c = ascii ']' then failNext .trailingComma (c :: rest)
          else do
            let (v, rest) ← value (c :: rest)
            items value rounds false (read ++ [v]) rest
      else failNext .expectedListCommaOrEnd (b :: rest)

/-- The opening quote of the next name of an object, or its closing brace: the bytes behind it. -/
def nextName (first : Bool) (bs : List UInt8) : Except Failure (Option (List UInt8)) :=
  match skipSpace bs with
  | [] => failNext .eofObject []
  | b :: rest =>
    if b = ascii '\x7d' then .ok none
    else if first then
      if b = ascii '"' then .ok (some rest) else failNext .keyMustBeString (b :: rest)
    else if b = ascii ',' then
      match skipSpace rest with
      | [] => failNext .eofValue []
      | c :: rest =>
        if c = ascii '"' then .ok (some rest)
        else if c = ascii '\x7d' then failNext .trailingComma (c :: rest)
        else failNext .keyMustBeString (c :: rest)
    else failNext .expectedObjectCommaOrEnd (b :: rest)

/-- The colon behind a name. -/
def colon (bs : List UInt8) : Except Failure (List UInt8) :=
  match skipSpace bs with
  | [] => failNext .eofObject []
  | b :: rest => if b = ascii ':' then .ok rest else failNext .expectedColon (b :: rest)

/-- The fields of an object up to its closing brace, those read so far first. -/
def fields (value : List UInt8 → Reading Json) :
    Nat → Bool → List (String × Json) → List UInt8 →
      Except Failure (List (String × Json) × List UInt8)
  | 0, _, _, bs => failNext .eofObject bs
  | rounds + 1, first, read, bs => do
    match ← nextName first bs with
    | none => .ok (read, (skipSpace bs).tail)
    | some rest =>
      let (name, rest) ← string rest
      let (v, rest) ← value (← colon rest)
      fields value rounds false (put name v read) rest

/-- A value below the given number of levels. -/
def value : Nat → List UInt8 → Reading Json
  | depth, bs =>
    match skipSpace bs with
    | [] => failNext .eofValue []
    | b :: rest =>
      if b = ascii 'n' then (word "ull".toList rest).map (Json.null, ·)
      else if b = ascii 't' then (word "rue".toList rest).map (Json.bool true, ·)
      else if b = ascii 'f' then (word "alse".toList rest).map (Json.bool false, ·)
      else if b = ascii '-' then number true rest
      else if isDigit b then number false (b :: rest)
      else if b = ascii '"' then (string rest).map fun (s, rest) => (Json.string s, rest)
      else if b = ascii '[' then
        match depth with
        | 0 => failNext .recursionLimit (b :: rest)
        | depth + 1 =>
          (items (value depth) (rest.length + 1) true [] rest).map fun (vs, rest) =>
            (Json.array vs, rest)
      else if b = ascii '\x7b' then
        match depth with
        | 0 => failNext .recursionLimit (b :: rest)
        | depth + 1 =>
          (fields (value depth) (rest.length + 1) true [] rest).map fun (fs, rest) =>
            (Json.object fs, rest)
      else failNext .expectedValue (b :: rest)

/-- Nothing but white space may follow. -/
def finish {α : Type} (a : α) (rest : List UInt8) : Except Failure α :=
  match skipSpace rest with
  | [] => .ok a
  | b :: rest => failNext .trailingCharacters (b :: rest)

end Read

/-- The value that a text is. -/
def parseBytes (text : List UInt8) : Except Error Json :=
  let result : Except Failure Json := do
    let (v, rest) ← Read.value Read.maxDepth text
    Read.finish v rest
  result.mapError (·.within text)

/-- The value that a string is. -/
def parse (text : String) : Except Error Json :=
  parseBytes (Utf8.bytes text)

end TableFeed.Json
