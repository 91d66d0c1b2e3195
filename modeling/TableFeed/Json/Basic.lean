import TableFeed.Number.Shortest

/-!
# JSON values

A value keeps the fields of an object in the order in which their names first appear; a later
field of the same name replaces the value and keeps the place. Numbers are whole numbers of 64
bits (with or without a sign) or binary floating-point numbers.
-/

namespace TableFeed

/-- A JSON value. -/
inductive Json where
  | null
  | bool (b : Bool)
  | int (i : Int)
  | float (x : Binary64)
  | string (s : String)
  | array (items : List Json)
  | object (fields : List (String × Json))
  deriving Repr, Inhabited, BEq

namespace Json

/-- A number as a value; JSON has none for an infinity or a NaN. -/
def ofBinary64 (x : Binary64) : Json :=
  if x.isFinite then .float x else .null

/-- The fields with one more: it replaces the value of a field of that name, in its place. -/
def put (name : String) (value : Json) : List (String × Json) → List (String × Json)
  | [] => [(name, value)]
  | (n, v) :: rest => if n = name then (n, value) :: rest else (n, v) :: put name value rest

/-- The value of a field. -/
def field? (name : String) (fields : List (String × Json)) : Option Json :=
  fields.findSome? fun (n, v) => if n = name then some v else none

end Json

end TableFeed
