import TableFeed.Proofs.Number.Layout

/-!
# How JSON is written

The grammar of JSON, by the parts that a text is put together from: white space, numbers
(`NumberText`), strings (`Piece`), the items of arrays (`Item`) and the members of objects
(`Member`). `Written` is the grammar of values, with a bound on how deep they nest. It says nothing
about what a text denotes: a number may be beyond every format, and a string may escape half a
character.
-/

namespace TableFeed.Json

open Shortest.Layout (fractionText)

/-- White space, between any two parts of a text. -/
def IsSpacing (cs : List Char) : Prop :=
  ∀ c ∈ cs, c ∈ [' ', '\t', '\n', '\r']

/-! ## Numbers -/

/-- A number by its parts. -/
structure NumberText where
  negative : Bool
  whole : List Char
  /-- The digits behind the point; without any there is no point. -/
  fraction : List Char
  /-- The power of ten: its mark, its sign if it has one, and its digits. -/
  power : Option (Char × Option Char × List Char)

namespace NumberText

def powerText : Option (Char × Option Char × List Char) → List Char
  | none => []
  | some (mark, sign, ds) => mark :: (sign.toList ++ ds)

/-- The text behind the sign. -/
def unsigned (t : NumberText) : List Char :=
  t.whole ++ (fractionText t.fraction ++ powerText t.power)

def text (t : NumberText) : List Char :=
  (if t.negative then ['-'] else []) ++ t.unsigned

/-- A power of ten of the grammar. -/
structure ProperPower (mark : Char) (sign : Option Char) (ds : List Char) : Prop where
  mark : mark = 'e' ∨ mark = 'E'
  sign : ∀ c ∈ sign, c = '+' ∨ c = '-'
  some : ds ≠ []
  digits : ∀ c ∈ ds, c.isDigit = true

/-- A power of ten of the grammar, or none. -/
def IsPower (power : Option (Char × Option Char × List Char)) : Prop :=
  ∀ mark sign ds, power = some (mark, sign, ds) → ProperPower mark sign ds

theorem isPower_none : IsPower none := by
  rintro mark sign ds ⟨⟩

theorem ProperPower.isPower {mark : Char} {sign : Option Char} {ds : List Char}
    (h : ProperPower mark sign ds) : IsPower (.some (mark, sign, ds)) := by
  rintro mark' sign' ds' ⟨rfl, rfl, rfl⟩
  exact h

/-- A number of the grammar: there are digits in front, none of them an idle zero. -/
structure Proper (t : NumberText) : Prop where
  whole : ∃ d ds, t.whole = d :: ds ∧ (d = '0' → ds = [])
  wholeDigits : ∀ c ∈ t.whole, c.isDigit = true
  fractionDigits : ∀ c ∈ t.fraction, c.isDigit = true
  power : IsPower t.power

end NumberText

/-! ## Strings -/

/-- What a string is put together from. -/
inductive Piece where
  /-- A character that stands for itself. -/
  | plain (c : Char)
  /-- A letter behind a backslash. -/
  | escape (letter : Char)
  /-- Four hexadecimal digits behind a backslash. -/
  | unicode (a b c d : Char)

namespace Piece

def text : Piece → List Char
  | plain c => [c]
  | escape letter => ['\\', letter]
  | unicode a b c d => ['\\', 'u', a, b, c, d]

/-- The letters that stand behind a backslash. -/
def letters : List Char :=
  ['"', '\\', '/', 'b', 'f', 'n', 'r', 't']

/-- A piece of the grammar. -/
def Proper : Piece → Prop
  | plain c => c ≠ '"' ∧ c ≠ '\\' ∧ ¬ c.toNat < 0x20
  | escape letter => letter ∈ letters
  | unicode a b c d => ∀ digit ∈ [a, b, c, d], (Digits.hexValue? digit).isSome = true

instance : DecidablePred Proper
  | plain c => inferInstanceAs (Decidable (c ≠ '"' ∧ c ≠ '\\' ∧ ¬ c.toNat < 0x20))
  | escape letter => inferInstanceAs (Decidable (letter ∈ letters))
  | unicode a b c d => List.decidableBAll _ [a, b, c, d]

end Piece

/-- Pieces behind the opening quote, with the closing one. -/
def closedText (pieces : List Piece) : List Char :=
  pieces.flatMap Piece.text ++ ['"']

/-- A string. -/
def stringText (pieces : List Piece) : List Char :=
  '"' :: closedText pieces

/-! ## Arrays and objects -/

/-- An item of an array: a value with white space around it. -/
structure Item where
  before : List Char := []
  value : List Char
  after : List Char := []

/-- The text of an item, with what follows it. -/
def Item.textWith (i : Item) (rest : List Char) : List Char :=
  i.before ++ (i.value ++ (i.after ++ rest))

/-- The white space of an item. -/
structure Item.Spaced (i : Item) : Prop where
  before : IsSpacing i.before
  after : IsSpacing i.after

/-- Items up to the closing bracket; `first` says that none has been written. -/
def itemsText : Bool → List Item → List Char
  | _, [] => [']']
  | first, i :: rest => (if first then [] else [',']) ++ i.textWith (itemsText false rest)

/-- A member of an object: a name, a colon and a value, with white space around each. -/
structure Member where
  before : List Char := []
  name : List Piece
  between : List Char := []
  item : Item

/-- The text of a member behind the opening quote of its name, with what follows it. -/
def Member.openTextWith (m : Member) (rest : List Char) : List Char :=
  closedText m.name ++ (m.between ++ ':' :: m.item.textWith rest)

/-- The white space and the name of a member. -/
structure Member.Proper (m : Member) : Prop where
  before : IsSpacing m.before
  name : ∀ p ∈ m.name, p.Proper
  between : IsSpacing m.between
  item : m.item.Spaced

/-- Members up to the closing brace; `first` says that none has been written. -/
def membersText : Bool → List Member → List Char
  | _, [] => ['\x7d']
  | first, m :: rest =>
    (if first then [] else [',']) ++ (m.before ++ '"' :: m.openTextWith (membersText false rest))

/-- A value of the grammar that nests no deeper than a bound. -/
inductive Written : Nat → List Char → Prop where
  | null {d : Nat} : Written d "null".toList
  | true {d : Nat} : Written d "true".toList
  | false {d : Nat} : Written d "false".toList
  | number {d : Nat} {t : NumberText} (h : t.Proper) : Written d t.text
  | string {d : Nat} {pieces : List Piece} (h : ∀ p ∈ pieces, p.Proper) :
    Written d (stringText pieces)
  | array {d : Nat} {space : List Char} {items : List Item} (hspace : IsSpacing space)
    (hitems : ∀ i ∈ items, i.Spaced) (h : ∀ i ∈ items, Written d i.value) :
    Written (d + 1) ('[' :: (space ++ itemsText true items))
  | object {d : Nat} {space : List Char} {members : List Member} (hspace : IsSpacing space)
    (hmembers : ∀ m ∈ members, m.Proper) (h : ∀ m ∈ members, Written d m.item.value) :
    Written (d + 1) ('\x7b' :: (space ++ membersText true members))

end TableFeed.Json
