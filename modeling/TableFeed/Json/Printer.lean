import TableFeed.Json.Basic
import TableFeed.Text.Digits

/-!
# JSON text

`Json.render` writes a value without white space. A string escapes the quote, the backslash and
the control characters below U+0020, and writes every other character as itself.
-/

namespace TableFeed.Json

/-- A character inside a JSON string. -/
def escape (c : Char) : List Char :=
  if c = '"' then ['\\', '"']
  else if c = '\\' then ['\\', '\\']
  else if c = '\x08' then ['\\', 'b']
  else if c = '\x0c' then ['\\', 'f']
  else if c = '\n' then ['\\', 'n']
  else if c = '\r' then ['\\', 'r']
  else if c = '\t' then ['\\', 't']
  else if c.toNat < 0x20 then
    ['\\', 'u', '0', '0', Digits.hexDigit (c.toNat / 16), Digits.hexDigit (c.toNat % 16)]
  else [c]

/-- The characters of a JSON string, its quotes included. -/
def quoteChars (cs : List Char) : List Char :=
  '"' :: cs.flatMap escape ++ ['"']

/-- A text as a JSON string. -/
def quote (s : String) : String :=
  String.ofList (quoteChars s.toList)

/-- A floating-point number as JSON. -/
def floatText : Binary64 → String
  | .finite negative m e => Shortest.json negative m e
  | _ => "null"

mutual

/-- The characters of a value's text. -/
def renderChars : Json → List Char
  | .null => "null".toList
  | .bool true => "true".toList
  | .bool false => "false".toList
  | .int i => (toString i).toList
  | .float x => (floatText x).toList
  | .string s => quoteChars s.toList
  | .array items => '[' :: renderItems items
  | .object fields => '\x7b' :: renderFields fields

/-- The items of an array up to its closing bracket. -/
def renderItems : List Json → List Char
  | [] => [']']
  | [v] => renderChars v ++ [']']
  | v :: w :: rest => renderChars v ++ ',' :: renderItems (w :: rest)

/-- The fields of an object up to its closing brace. -/
def renderFields : List (String × Json) → List Char
  | [] => ['\x7d']
  | [(n, v)] => quoteChars n.toList ++ ':' :: renderChars v ++ ['\x7d']
  | (n, v) :: f :: rest =>
    quoteChars n.toList ++ ':' :: renderChars v ++ ',' :: renderFields (f :: rest)

end

/-- The text of a value, without white space. -/
def render (v : Json) : String :=
  String.ofList (renderChars v)

end TableFeed.Json
