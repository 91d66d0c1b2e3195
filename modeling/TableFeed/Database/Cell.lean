import TableFeed.Database.Moment
import TableFeed.Database.Numeric
import TableFeed.Table.Cell

/-!
# Cells of the database

The types of a database's columns, and the value in the bytes of a cell of each. A type without a
decoder has no values.
-/

namespace TableFeed

/-- The type of a column. -/
inductive ColumnType where
  | bool
  | char
  | int2
  | int4
  | int8
  | oid
  | float4
  | float8
  | numeric
  | money
  | uuid
  | timestamptz
  | timestamp
  | date
  | time
  | json
  | jsonb
  | inet
  /-- A type of texts. -/
  | text
  /-- A type of label trees, whose texts have a version in front. -/
  | tree (name : String)
  /-- A type without a decoder. -/
  | other (name : String)
  deriving DecidableEq, Repr

namespace ColumnType

/-- The types that are built in and have a decoder. -/
def builtIn : List (String × ColumnType) :=
  [("bool", .bool), ("char", .char), ("int2", .int2), ("int4", .int4), ("int8", .int8),
   ("oid", .oid), ("float4", .float4), ("float8", .float8), ("numeric", .numeric),
   ("money", .money), ("uuid", .uuid), ("timestamptz", .timestamptz), ("timestamp", .timestamp),
   ("date", .date), ("time", .time), ("json", .json), ("jsonb", .jsonb), ("inet", .inet),
   ("varchar", .text), ("text", .text), ("bpchar", .text), ("name", .text), ("unknown", .text)]

/-- The end of the names of the types of arrays. -/
def arrayEnd : List Char := "_array".toList

/-- The name under which the database knows a built-in type: that of an array has `_` in front. -/
def databaseName (name : String) : String :=
  let cs := name.toList
  if arrayEnd.isSuffixOf cs then
    "_" ++ String.ofList (cs.take (cs.length - arrayEnd.length))
  else name

/-- The built-in type of a name. -/
def ofName (name : String) : ColumnType :=
  (builtIn.lookup name).getD (.other (databaseName name))

/-- The type that an extension adds under a name. -/
def ofExtension (name : String) : ColumnType :=
  if name = "citext" then .text
  else if name ∈ ["ltree", "lquery", "ltxtquery"] then .tree name
  else .other name

end ColumnType

/-! ### Addresses -/

namespace InetAddress

/-- The 16-bit groups of an address of the sixth version. -/
def groups : List UInt8 → List Nat
  | a :: b :: rest => (a.toNat * 256 + b.toNat) :: groups rest
  | _ => []

/-- A number in hexadecimal without zeros in front. -/
def hex (n : Nat) : String :=
  String.ofList (Nat.toDigits 16 n)

/-- Four numbers between points. -/
def dotted (bs : List UInt8) : String :=
  ".".intercalate (bs.map fun b => toString b.toNat)

/-- The number of zeros at the front of some groups. -/
def zeroRun (gs : List Nat) : Nat :=
  (gs.takeWhile (· = 0)).length

/-- The first of the longest runs of zeros: where it begins and how long it is. -/
def longestRun (gs : List Nat) : Nat × Nat :=
  (List.range gs.length).foldl
    (fun (place, size) i =>
      let run := zeroRun (gs.drop i)
      if size < run then (i, run) else (place, size))
    (0, 0)

/-- An address of the sixth version: the longest run of zero groups is left out, and one that holds
an address of the fourth version shows it. -/
def text6 (bs : List UInt8) : String :=
  let gs := groups bs
  if gs.take 6 = [0, 0, 0, 0, 0, 0xFFFF] then "::ffff:" ++ dotted (bs.drop 12)
  else
    let (place, size) := longestRun gs
    let join (gs : List Nat) : String := ":".intercalate (gs.map hex)
    if 1 < size then join (gs.take place) ++ "::" ++ join (gs.drop (place + size)) else join gs

/-- The address in the bytes of a cell: family, mask, a flag, length and address. -/
def ofBytes (bs : List UInt8) : Except CellError String := do
  let (family, rest) ← Bytes.number 1 bs
  let (mask, rest) ← Bytes.number 1 rest
  let (_, rest) ← Bytes.number 1 rest
  let (length, rest) ← Bytes.number 1 rest
  let (version, size, text) ←
    if family = 2 then pure (4, 4, dotted)
    else if family = 3 then pure (6, 16, text6)
    else throw CellError.addressFamily
  if size * 8 < mask then throw (.addressMask version)
  if length ≠ size then throw (.addressLength version)
  if rest.length < size then throw .tooShort
  if size < rest.length then throw .tooLong
  return text rest

end InetAddress

/-! ### Decoding -/

namespace ColumnType

/-- An amount of money, given in cents. -/
def moneyText (cents : Int) : String :=
  let n := cents.natAbs
  (if cents < 0 then "-" else "") ++ toString (n / 100) ++ "." ++ Digits.padded 2 (n % 100)

/-- The text that bytes are. -/
def decodeText (bs : List UInt8) : Except CellError Cell :=
  ((Utf8.decode bs).mapError .text).map .text

/-- A value that the bytes of a cell may be out of range for. -/
def inRange (s : Option String) : Except CellError Cell :=
  match s with
  | some s => .ok (.text s)
  | none => .error .outOfRange

/-- A unique identifier: groups of hexadecimal digits. -/
def uuidText (bs : List UInt8) : String :=
  let part (start size : Nat) : String :=
    String.ofList (((bs.drop start).take size).flatMap Digits.hexByte)
  "-".intercalate [part 0 4, part 4 2, part 6 2, part 8 2, part 10 6]

/-- JSON, written anew. -/
def decodeJson (bs : List UInt8) : Except CellError Cell :=
  ((Json.parseBytes bs).mapError .json).map fun v => .text v.render

/-- The value in the bytes of a cell; none for a type without a decoder. -/
def decode (type : ColumnType) (bs : List UInt8) : Except CellError (Option Cell) :=
  match type with
  | .bool =>
    match bs with
    | [b] => .ok (some (.bool (b != 0)))
    | _ => .error .tooLong
  | .char => (Bytes.wholeSigned 1 .tooLong bs).map fun i => some (.int i)
  | .int2 => (Bytes.wholeSigned 2 .tooLong bs).map fun i => some (.int i)
  | .int4 => (Bytes.wholeSigned 4 .tooLong bs).map fun i => some (.int i)
  | .int8 => (Bytes.wholeSigned 8 .tooLong bs).map fun i => some (.int i)
  | .oid => (Bytes.whole 4 .tooLong bs).map fun n => some (.uint n)
  | .float4 => (Bytes.whole 4 .tooLong bs).map fun w => some (.float (Binary64.ofBits32 w))
  | .float8 => (Bytes.whole 8 .tooLong bs).map fun w => some (.float (Binary64.ofBits w))
  | .numeric => (Decimal96.ofBytes bs).map fun d => some (.text d.text)
  | .money => (Bytes.wholeSigned 8 .tooLong bs).map fun i => some (.text (moneyText i))
  | .uuid => if bs.length = 16 then .ok (some (.text (uuidText bs))) else .error .uuidSize
  | .timestamptz | .timestamp => do
    let micros ← Bytes.wholeSigned 8 (.notDrained "timestamp") bs
    (inRange (Moment.timestamp? micros)).map some
  | .date => do
    let days ← Bytes.wholeSigned 4 (.notDrained "date") bs
    (inRange ((Moment.date? days).map Moment.dateText)).map some
  | .time => do
    let micros ← Bytes.wholeSigned 8 (.notDrained "time") bs
    return some (.text (Moment.timeText (micros % Moment.microsPerDay).toNat))
  | .json => (decodeJson bs).map some
  | .jsonb =>
    match bs with
    | [] => .error .tooShort
    | version :: rest =>
      if version = 1 then (decodeJson rest).map some else .error .jsonVersion
  | .inet => (InetAddress.ofBytes bs).map fun s => some (.text s)
  | .text => (decodeText bs).map some
  | .tree name =>
    match bs with
    | 1 :: rest => (decodeText rest).map some
    | _ => .error (.treeVersion name)
  | .other _ => .ok none

end ColumnType

end TableFeed
