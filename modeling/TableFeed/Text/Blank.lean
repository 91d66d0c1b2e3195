/-!
# White space

The characters with the Unicode property `White_Space`, and the operations that are defined by
them: trimming a text at both ends and splitting it into words.
-/

namespace TableFeed.Blank

/-- The characters with the Unicode property `White_Space`. -/
def isBlank (c : Char) : Bool :=
  let n := c.toNat
  (9 ≤ n && n ≤ 13) || n == 0x20 || n == 0x85 || n == 0xA0 || n == 0x1680
    || (0x2000 ≤ n && n ≤ 0x200A) || n == 0x2028 || n == 0x2029 || n == 0x202F
    || n == 0x205F || n == 0x3000

/-- A text without the characters of a class at either end. -/
def trimBy (p : Char → Bool) (cs : List Char) : List Char :=
  ((cs.dropWhile p).reverse.dropWhile p).reverse

/-- A text without white space at either end. -/
def trimChars (cs : List Char) : List Char :=
  trimBy isBlank cs

/-- A string without white space at either end. -/
def trim (s : String) : String :=
  String.ofList (trimChars s.toList)

/-- A string that is empty or white space only. -/
def isEmpty (s : String) : Bool :=
  s.toList.all isBlank

/-- The words of a text, the one being read in front of it with its last character first. -/
def wordsFrom : List Char → List Char → List (List Char)
  | [], [] => []
  | word, [] => [word.reverse]
  | word, c :: rest =>
    if isBlank c then
      match word with
      | [] => wordsFrom [] rest
      | _ :: _ => word.reverse :: wordsFrom [] rest
    else wordsFrom (c :: word) rest

/-- The maximal runs of characters that are not white space. -/
def words (cs : List Char) : List (List Char) :=
  wordsFrom [] cs

/-- The words of a text, one space between two of them. -/
def collapse (cs : List Char) : List Char :=
  [' '].intercalate (words cs)

end TableFeed.Blank
