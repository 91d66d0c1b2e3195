import TableFeed.Text.Quoted.Hidden

/-!
# Quoted text in messages

A text as messages quote it: between double quotes, with the quote, the backslash and everything
that cannot be seen written as an escape.
-/

namespace TableFeed.Quoted

/-- A number in hexadecimal without zeros in front. -/
def hex (n : Nat) : List Char :=
  (Nat.toDigits 16 n)

/-- A character of a quoted text. -/
def escape (c : Char) : List Char :=
  match c with
  | '\x00' => ['\\', '0']
  | '\t' => ['\\', 't']
  | '\r' => ['\\', 'r']
  | '\n' => ['\\', 'n']
  | '"' => ['\\', '"']
  | '\\' => ['\\', '\\']
  | c => if hidden.contains c then ['\\', 'u', '\x7b'] ++ hex c.toNat ++ ['\x7d'] else [c]

/-- A text between quotes. -/
def quote (s : String) : String :=
  String.ofList ('"' :: s.toList.flatMap escape ++ ['"'])

end TableFeed.Quoted
