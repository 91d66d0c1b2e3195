import TableFeed.Json.Printer
import TableFeed.Text.Quoted
import TableFeed.Text.Utf8

/-!
# Why a text is not the JSON that was asked for

A `Cause` is a fault of syntax or of shape, and `Cause.message` its wording. A reader stops at a
place in the text, which it reports as the number of bytes left; `Position.at` turns that into the
line and the column of a message.
-/

namespace TableFeed.Json

/-- The kind of value that stands where another was expected. -/
inductive Found where
  | null
  | bool (b : Bool)
  | int (i : Int)
  | float (x : Binary64)
  | string (s : String)
  | array
  | object
  deriving Repr

/-- The wording for the value that was found. -/
def Found.text : Found → String
  | .null => "null"
  | .bool b => s!"boolean `{b}`"
  | .int i => s!"integer `{i}`"
  | .float x => s!"floating point `{floatText x}`"
  | .string s => "string " ++ Quoted.quote s
  | .array => "sequence"
  | .object => "map"

/-- What a value is, as a message names it. -/
def found : Json → Found
  | .null => .null
  | .bool b => .bool b
  | .int i => .int i
  | .float x => .float x
  | .string s => .string s
  | .array _ => .array
  | .object _ => .object

/-- A fault of a text that should be JSON of some shape. -/
inductive Cause where
  | eofList
  | eofObject
  | eofString
  | eofValue
  | expectedColon
  | expectedListCommaOrEnd
  | expectedObjectCommaOrEnd
  | expectedIdent
  | expectedValue
  | invalidEscape
  | invalidNumber
  | numberOutOfRange
  | invalidCodePoint
  | controlCharacter
  | keyMustBeString
  | loneLeadingSurrogate
  | trailingComma
  | trailingCharacters
  | unexpectedEndOfHexEscape
  | recursionLimit
  | missingField (name : String)
  | duplicateField (name : String)
  | invalidType (found : Found) (expected : String)
  | invalidValue (found : Found) (expected : String)
  | invalidLength (length : Nat) (expected : String)
  deriving Repr

/-- The wording of a fault. -/
def Cause.message : Cause → String
  | .eofList => "EOF while parsing a list"
  | .eofObject => "EOF while parsing an object"
  | .eofString => "EOF while parsing a string"
  | .eofValue => "EOF while parsing a value"
  | .expectedColon => "expected `:`"
  | .expectedListCommaOrEnd => "expected `,` or `]`"
  | .expectedObjectCommaOrEnd => "expected `,` or `\x7d`"
  | .expectedIdent => "expected ident"
  | .expectedValue => "expected value"
  | .invalidEscape => "invalid escape"
  | .invalidNumber => "invalid number"
  | .numberOutOfRange => "number out of range"
  | .invalidCodePoint => "invalid unicode code point"
  | .controlCharacter => "control character (\\u0000-\\u001F) found while parsing a string"
  | .keyMustBeString => "key must be a string"
  | .loneLeadingSurrogate => "lone leading surrogate in hex escape"
  | .trailingComma => "trailing comma"
  | .trailingCharacters => "trailing characters"
  | .unexpectedEndOfHexEscape => "unexpected end of hex escape"
  | .recursionLimit => "recursion limit exceeded"
  | .missingField name => s!"missing field `{name}`"
  | .duplicateField name => s!"duplicate field `{name}`"
  | .invalidType found expected => s!"invalid type: {found.text}, expected {expected}"
  | .invalidValue found expected => s!"invalid value: {found.text}, expected {expected}"
  | .invalidLength length expected => s!"invalid length {length}, expected {expected}"

/-- A fault and the number of bytes that follow the place where it was found. -/
structure Failure where
  cause : Cause
  left : Nat
  deriving Repr

/-- A place in a text: lines count from one, columns count the bytes of the line before it. -/
structure Position where
  line : Nat
  column : Nat
  deriving DecidableEq, Repr

/-- The place after a number of bytes. -/
def Position.after (read : List UInt8) : Position :=
  let newline : UInt8 := 10
  ⟨read.count newline + 1, (read.reverse.takeWhile (· != newline)).length⟩

/-- A fault with its place in the text, or without one if no text was read. -/
structure Error where
  cause : Cause
  position : Option Position
  deriving Repr

/-- The message of a fault. -/
def Error.message (e : Error) : String :=
  match e.position with
  | none => e.cause.message
  | some p => s!"{e.cause.message} at line {p.line} column {p.column}"

/-- A failure in a text, with its place. -/
def Failure.within (f : Failure) (text : List UInt8) : Error :=
  ⟨f.cause, some (Position.after (text.take (text.length - f.left)))⟩

end TableFeed.Json
