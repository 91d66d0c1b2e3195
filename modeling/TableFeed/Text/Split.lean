/-!
# Cutting texts

A text cut at the first or last of some characters, or at each of them.
-/

namespace TableFeed.Split

/-- What precedes the first character of a class, and what follows it, if there is one. -/
def first (p : Char → Bool) (cs : List Char) : List Char × Option (List Char) :=
  match cs.dropWhile (!p ·) with
  | [] => (cs, none)
  | _ :: rest => (cs.takeWhile (!p ·), some rest)

/-- What precedes the last character of a class, if there is one, and what follows it. -/
def last (p : Char → Bool) (cs : List Char) : Option (List Char) × List Char :=
  match first p cs.reverse with
  | (after, none) => (none, after.reverse)
  | (after, some before) => (some before.reverse, after.reverse)

/-- The pieces between the characters of a class, one more than there are such characters. -/
def every (p : Char → Bool) : List Char → List (List Char)
  | [] => [[]]
  | c :: rest =>
    if p c then [] :: every p rest
    else match every p rest with
      | [] => [[c]]
      | piece :: pieces => (c :: piece) :: pieces

/-- One text stands inside another. -/
def contains (part : List Char) : List Char → Bool
  | [] => part.isEmpty
  | c :: rest => part.isPrefixOf (c :: rest) || contains part rest

end TableFeed.Split
