/-!
# Tables of characters

Sets and maps of characters as the tables of a standard give them: by ranges of code points.
-/

namespace TableFeed

/-- A set of characters, as closed ranges of code points in ascending order. -/
structure CharSet where
  ranges : List (Nat × Nat)
  deriving Repr

namespace CharSet

/-- A character is in a set: one of its ranges holds it. -/
def contains (s : CharSet) (c : Char) : Bool :=
  s.ranges.any fun (first, last) => first ≤ c.toNat && c.toNat ≤ last

end CharSet

/-- Code points at equal steps, from the first to the last. -/
structure Steps where
  first : Nat
  last : Nat
  step : Nat
  deriving Repr

/-- A code point is one of those that the steps lead to. -/
def Steps.contains (s : Steps) (n : Nat) : Bool :=
  s.first ≤ n && n ≤ s.last && (n - s.first) % s.step == 0

/-- A map of characters: for code points at equal steps, what the first of them goes to. The others
go to code points at the same distances. -/
abbrev CharMap := List (Steps × Nat)

/-- What a character goes to, if the map says it. -/
def CharMap.image? (m : CharMap) (c : Char) : Option Char :=
  (m.find? fun (s, _) => s.contains c.toNat).map fun (s, image) =>
    Char.ofNat (image + (c.toNat - s.first))

end TableFeed
