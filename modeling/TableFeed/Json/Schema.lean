import TableFeed.Json.Ignored

/-!
# Records in JSON

A `Schema` names the fields of a record with the kind of each and, for some, a default. A record
stands in JSON as an object of these fields, in any order and among others, or as an array of their
values in order. `Schema.ofJson` takes a value apart, `Schema.parse` a text: the first fault wins
in both, and only a text's faults have a place.
-/

namespace TableFeed.Json

/-- The kind of a field's value. -/
inductive Kind where
  | any
  | text
  | number
  /-- A whole number from zero, below `2 ^ bits`. -/
  | natural (bits : Nat)
  deriving DecidableEq, Repr

/-- The wording for what a field expects. -/
def Kind.expected : Kind → String
  | .any => "any value"
  | .text => "a string"
  | .number => "f64"
  | .natural bits => s!"u{bits}"

/-- A value of a kind; a whole number also is a floating-point one. -/
def Kind.check : Kind → Json → Except Cause Json
  | .any, v => .ok v
  | .text, .string s => .ok (.string s)
  | .number, .float x => .ok (.float x)
  | .number, .int i => .ok (.float (Binary64.ofInt i))
  | .natural bits, .int i =>
    if 0 ≤ i ∧ i < Nat.pow 2 bits then .ok (.int i)
    else .error (.invalidValue (.int i) (Kind.natural bits).expected)
  | kind, v => .error (.invalidType (found v) kind.expected)

/-- A field of a record. -/
structure Field where
  name : String
  kind : Kind
  default : Option Json := none

/-- A record: its name and its fields in order. -/
structure Schema where
  name : String
  fields : List Field

namespace Schema

/-- The wording for a record. -/
def title (s : Schema) : String :=
  "struct " ++ s.name

/-- The wording for a record as an array. -/
def arrayTitle (s : Schema) : String :=
  s!"struct {s.name} with {s.fields.length} elements"

/-- The field of a name. -/
def field? (s : Schema) (name : String) : Option Field :=
  s.fields.find? (·.name = name)

/-- The values of the fields in order: those found by name, the defaults of the others. -/
def assemble (found : List (String × Json)) : List Field → Except Cause (List Json)
  | [] => .ok []
  | f :: fs =>
    match Json.field? f.name found <|> f.default with
    | some v => (assemble found fs).map (v :: ·)
    | none => .error (.missingField f.name)

/-! ### From a value -/

/-- The known fields of an object, each of its kind. -/
def checkFields (s : Schema) : List (String × Json) → Except Cause (List (String × Json))
  | [] => .ok []
  | (name, v) :: rest =>
    match s.field? name with
    | none => checkFields s rest
    | some f => do
      let v ← f.kind.check v
      let rest ← checkFields s rest
      return (name, v) :: rest

/-- The values of an array as fields in order; `index` of them have been taken. -/
def checkItems (s : Schema) : Nat → List Field → List Json → Except Cause (List Json)
  | _, [], _ => .ok []
  | index, f :: fs, [] =>
    match f.default with
    | some v => (checkItems s (index + 1) fs []).map (v :: ·)
    | none => .error (.invalidLength index s.arrayTitle)
  | index, f :: fs, v :: vs => do
    let v ← f.kind.check v
    let rest ← checkItems s (index + 1) fs vs
    return v :: rest

/-- The values of a record's fields, in the order of the schema. -/
def ofJson (s : Schema) : Json → Except Cause (List Json)
  | .object fields => do
    let found ← s.checkFields fields
    assemble found s.fields
  | .array items => do
    let values ← s.checkItems 0 s.fields items
    if s.fields.length < items.length then
      .error (.invalidLength items.length "fewer elements in array")
    else .ok values
  | v => .error (.invalidType (found v) s.title)

/-! ### From a text -/

open Read

/-- The fault of a value of the wrong kind; words, numbers and strings are read first. -/
def wrongKind {α : Type} (expected : String) (bs : List UInt8) : Except Failure α :=
  let fault (found : Found) (rest : List UInt8) : Except Failure α :=
    failHere (.invalidType found expected) rest
  match bs with
  | [] => failNext .expectedValue []
  | b :: rest =>
    if b = ascii '[' then fault .array (b :: rest)
    else if b = ascii '\x7b' then fault .object (b :: rest)
    else
      match value 0 (b :: rest) with
      | .error e => .error e
      | .ok (v, rest) => fault (found v) rest

/-- A value of a kind. -/
def readKind (kind : Kind) (bs : List UInt8) : Reading Json :=
  if kind = .any then value (maxDepth - 1) bs
  else
    match skipSpace bs with
    | [] => failNext .eofValue []
    | b :: rest =>
      if kind = .text then
        if b = ascii '"' then (Read.string rest).map fun (s, rest) => (Json.string s, rest)
        else wrongKind kind.expected (b :: rest)
      else if b = ascii '-' ∨ isDigit b then
        match value 0 (b :: rest) with
        | .error e => .error e
        | .ok (v, rest) =>
          match kind.check v with
          | .ok v => .ok (v, rest)
          | .error cause => failHere cause rest
      else wrongKind kind.expected (b :: rest)

/-- A fault of the record itself, placed behind the bracket that ends it if that comes next. -/
def failRecord {α : Type} (cause : Cause) (close : UInt8) (bs : List UInt8) :
    Except Failure α :=
  match skipSpace bs with
  | [] => failHere cause []
  | b :: rest =>
    if b = close then failHere cause rest
    else if close = ascii ']' ∧ b = ascii ',' then failHere cause (skipSpace rest)
    else failHere cause (b :: rest)

/-- The fields of an object up to its closing brace, those found so far given. -/
def readFields (s : Schema) : Nat → Bool → List (String × Json) → List UInt8 →
    Except Failure (List (String × Json) × List UInt8)
  | 0, _, _, bs => failNext .eofObject bs
  | rounds + 1, first, found, bs => do
    match ← nextName first bs with
    | none => .ok (found, skipSpace bs)
    | some rest =>
      let (name, rest) ← Read.string rest
      match s.field? name with
      | none =>
        let rest ← skipValue (← colon rest)
        readFields s rounds false found rest
      | some f =>
        if (Json.field? name found).isSome then
          failRecord (.duplicateField name) (ascii '\x7d') rest
        else
          let (v, rest) ← readKind f.kind (← colon rest)
          readFields s rounds false (found ++ [(name, v)]) rest

/-- Whether another item of an array follows, with the bytes where it begins. -/
def nextItem (first : Bool) (bs : List UInt8) : Except Failure (Option (List UInt8)) :=
  match skipSpace bs with
  | [] => failNext .eofList []
  | b :: rest =>
    if b = ascii ']' then .ok none
    else if first then .ok (some (b :: rest))
    else if b = ascii ',' then
      match skipSpace rest with
      | [] => failNext .eofValue []
      | c :: rest =>
        if c = ascii ']' then failNext .trailingComma (c :: rest) else .ok (some (c :: rest))
    else failNext .expectedListCommaOrEnd (b :: rest)

/-- The items of an array as fields in order; `index` of them have been taken. -/
def readItems (s : Schema) : Nat → List Field → List UInt8 →
    Except Failure (List Json × List UInt8)
  | _, [], bs => .ok ([], bs)
  | index, f :: fs, bs => do
    match ← nextItem (index == 0) bs with
    | some rest =>
      let (v, rest) ← readKind f.kind rest
      let (vs, rest) ← readItems s (index + 1) fs rest
      return (v :: vs, rest)
    | none =>
      match f.default with
      | some v =>
        let (vs, rest) ← readItems s (index + 1) fs bs
        return (v :: vs, rest)
      | none => failRecord (.invalidLength index s.arrayTitle) (ascii ']') bs

/-- The bracket that ends an array of all the fields. -/
def endItems (bs : List UInt8) : Except Failure (List UInt8) :=
  match skipSpace bs with
  | [] => failNext .eofList []
  | b :: rest =>
    if b = ascii ']' then .ok rest
    else if b = ascii ',' then
      match skipSpace rest with
      | [] => failNext .trailingCharacters []
      | c :: rest =>
        if c = ascii ']' then failNext .trailingComma (c :: rest)
        else failNext .trailingCharacters (c :: rest)
    else failNext .trailingCharacters (b :: rest)

/-- A record. -/
def read (s : Schema) (bs : List UInt8) : Except Failure (List Json × List UInt8) :=
  match skipSpace bs with
  | [] => failNext .eofValue []
  | b :: rest =>
    if b = ascii '[' then do
      let (vs, rest) ← s.readItems 0 s.fields rest
      let rest ← endItems rest
      return (vs, rest)
    else if b = ascii '\x7b' then do
      let (found, rest) ← s.readFields (rest.length + 1) true [] rest
      match assemble found s.fields with
      | .ok vs => return (vs, rest.tail)
      | .error cause => failHere cause rest.tail
    else wrongKind s.title (b :: rest)

/-- The values of the fields of the record that a text is, in the order of the schema. -/
def parse (s : Schema) (text : String) : Except Error (List Json) :=
  let bytes := Utf8.bytes text
  let result : Except Failure (List Json) := do
    let (vs, rest) ← s.read bytes
    finish vs rest
  result.mapError (·.within bytes)

end Schema

/-- The text of a string value. -/
def asText : Json → String
  | .string s => s
  | _ => ""

/-- The number of a floating-point value. -/
def asNumber : Json → Binary64
  | .float x => x
  | _ => .nan

/-- The number of a whole value from zero. -/
def asNatural : Json → Nat
  | .int i => i.toNat
  | _ => 0

end TableFeed.Json
