import TableFeed.Text.Digits
import TableFeed.Text.Split

/-!
# Addresses of the internet protocol

Which texts are addresses: four numbers between points in version 4, which may be written in other
bases and run together, and groups of hexadecimal digits between colons in version 6.
-/

namespace TableFeed

namespace Ipv4

/-- The number that digits of a base denote; no digits denote zero. -/
def digits? (base : Nat) (cs : List Char) : Option Nat := do
  let values ← cs.mapM Digits.hexValue?
  if values.all (· < base) then some (values.foldl (fun n d => base * n + d) 0) else none

/-- The number that a part denotes: hexadecimal behind `0x`, octal behind `0`, or decimal. -/
def number? : List Char → Option Nat
  | [] => none
  | '0' :: 'x' :: cs | '0' :: 'X' :: cs => digits? 16 cs
  | '0' :: cs => digits? 8 cs
  | cs => digits? 10 cs

/-- The parts of a text between points; a point at the end counts for nothing. -/
def parts (cs : List Char) : List (List Char) :=
  let all := Split.every (· = '.') cs
  if all.getLast? = some [] then all.dropLast else all

/-- A name is meant for an address when it ends in a number. -/
def isMeant (cs : List Char) : Bool :=
  match (parts cs).getLast? with
  | some final => (Digits.natural? final).isSome || (number? final).isSome
  | none => false

/-- A well-formed address: up to four numbers, of which the last one fills the bytes that the
others, each a byte, leave. -/
def isAddress (cs : List Char) : Bool :=
  match (parts cs).mapM number? with
  | none => false
  | some numbers =>
    match numbers.reverse with
    | [] => false
    | final :: before =>
      before.length ≤ 3 && before.all (· < 256) && final < Nat.pow 256 (4 - before.length)

end Ipv4

namespace Ipv6

/-- A group of one to four hexadecimal digits. -/
def isGroup (cs : List Char) : Bool :=
  1 ≤ cs.length && cs.length ≤ 4 && cs.all fun c => (Digits.hexValue? c).isSome

/-- A number from 0 to 255 without zeros in front. -/
def isOctet (cs : List Char) : Bool :=
  match Digits.natural? cs with
  | some n => n ≤ 255 && (cs.length = 1 || cs.head? ≠ some '0')
  | none => false

/-- Four numbers from 0 to 255 between points. -/
def isDotted (cs : List Char) : Bool :=
  let parts := Split.every (· = '.') cs
  parts.length = 4 && parts.all isOctet

/-- The number of 16-bit groups of a text without an abbreviation, if it is well formed. The last
two may be written as four numbers. -/
def groups? (cs : List Char) : Option Nat :=
  if cs = [] then some 0
  else
    let parts := Split.every (· = ':') cs
    match parts.reverse with
    | [] => some 0
    | final :: before =>
      if ¬ before.all isGroup then none
      else if isGroup final then some parts.length
      else if isDotted final then some (parts.length + 1)
      else none

/-- The halves of a text around its first `::`. -/
def halves : List Char → List Char → Option (List Char × List Char)
  | _, [] => none
  | before, ':' :: ':' :: rest => some (before.reverse, rest)
  | before, c :: rest => halves (c :: before) rest

/-- A well-formed address: eight groups, or fewer around one `::`. -/
def isAddress (cs : List Char) : Bool :=
  match halves [] cs with
  | none => groups? cs = some 8
  | some (before, after) =>
    !before.contains '.' &&
      match groups? before, groups? after with
      | some n, some m => n + m ≤ 7
      | _, _ => false

end Ipv6

end TableFeed
