import TableFeed.Text.Domain.Direction
import TableFeed.Text.Domain.Forms
import TableFeed.Text.Domain.Joining
import TableFeed.Text.Punycode
import TableFeed.Text.Split

/-!
# Domain names

A domain name may be written in any script. `Domain.parse?` takes a text to the name it stands for:
every character takes the form that it has in names, labels that begin with `xn--` are decoded, and
each label has to be one that can be registered. Letters outside ASCII are not folded to lower case.
-/

namespace TableFeed.Domain

/-- ASCII characters that no name holds: controls, the space, and those that divide a URL. -/
def isDenied (c : Char) : Bool :=
  c.toNat ≤ 0x20 || c.toNat = 0x7F || "%#/:<>?@[\\]^|".toList.contains c

/-- What is written in a name for a character that may stand in one. -/
def form? (c : Char) : Option (List Char) :=
  if c.toNat < 0x80 then if isDenied c then none else some [c.toLower]
  else if refused.contains c then none
  else if skipped.contains c then some []
  else match asciiForms.image? c, asciiTexts.lookup c.toNat with
    | some a, _ => some [a]
    | none, some text => some text.toList
    | none, none => some [c]

/-- A text with the two denied signs that can be struck through as one character each. -/
def joinStruck : List Char → List Char
  | [] => []
  | '<' :: '\u0338' :: rest => '≮' :: joinStruck rest
  | '>' :: '\u0338' :: rest => '≯' :: joinStruck rest
  | c :: rest => c :: joinStruck rest

/-- A character that is its own form and a variant of no other text. -/
def isSettled (c : Char) : Bool :=
  form? c = some [c] && (c.toNat < 0x80 || !variants.any (·.contains c.toNat))

/-- The longest encoded label, without its mark. -/
def maxCode : Nat := 2000

/-- The longest label with characters outside ASCII. -/
def maxLabel : Nat := 1000

/-- The label that a label stands for: behind `xn--` it is encoded. -/
def decodeLabel? : List Char → Option (List Char)
  | 'x' :: 'n' :: '-' :: '-' :: code =>
    if code = [] ∨ code.getLast? = some '-' ∨ maxCode < code.length then none
    else (Punycode.decode? code).filter (·.all isSettled)
  | label => some label

/-- A label that can be registered. -/
def isLabel (label : List Char) : Bool :=
  !label.head?.any isMark && joinersFit [] label &&
    (label.length ≤ maxLabel || label.all (·.toNat < 0x80))

/-- The labels of the name that a text stands for. -/
def labels? (cs : List Char) : Option (List (List Char)) := do
  let forms ← (joinStruck cs).mapM form?
  let labels ← (Split.every (· = '.') forms.flatten).mapM decodeLabel?
  if labels.all isLabel && directionsFit labels then some labels else none

/-- The name that a text stands for. -/
def parse? (cs : List Char) : Option (List Char) :=
  (labels? cs).map (['.'].intercalate ·)

end TableFeed.Domain
