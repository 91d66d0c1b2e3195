import TableFeed.Text.Case.Letters

/-!
# Lower case

The lower case of a text in any script. One letter looks at the text around it: a capital sigma at
the end of a word has a form of its own.
-/

namespace TableFeed.Case

/-- The next character that shows where a word ends has case. -/
def meetsCased (cs : List Char) : Bool :=
  match cs.dropWhile caseIgnorable.contains with
  | c :: _ => cased.contains c
  | [] => false

/-- A text in lower case, behind the characters that precede it, last first. -/
def lowerFrom : List Char → List Char → List Char
  | _, [] => []
  | before, c :: rest =>
    let lowered :=
      if c = 'Σ' then if meetsCased before && !meetsCased rest then ['ς'] else ['σ']
      else if c = 'İ' then ['i', '\u0307']
      else [(lowerForms.image? c).getD c]
    lowered ++ lowerFrom (c :: before) rest

/-- A string in lower case. -/
def lower (s : String) : String :=
  String.ofList (lowerFrom [] s.toList)

end TableFeed.Case
