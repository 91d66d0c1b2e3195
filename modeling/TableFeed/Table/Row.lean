import TableFeed.Table.Cell

/-!
# Rows

A row maps column names to cells in the order in which the names were first inserted. A cell may
be absent (NULL). Every row carries the identity column, which names its samples.
-/

namespace TableFeed

/-- The column that identifies a row; it names the row's samples and is not published itself. -/
def identityColumn : String := "mfx_id"

/-- Column names with their cells, in the order of first insertion. -/
structure Row where
  cells : List (String × Option Cell) := []
  deriving DecidableEq, Repr, Inhabited

namespace Row

/-- The cells with one more; a name that is there keeps its place and gets the new value. -/
def insertCell (column : String) (value : Option Cell) :
    List (String × Option Cell) → List (String × Option Cell)
  | [] => [(column, value)]
  | (c, v) :: rest =>
    if c = column then (c, value) :: rest else (c, v) :: insertCell column value rest

/-- The row with a column set. -/
def insert (r : Row) (column : String) (value : Option Cell) : Row :=
  ⟨insertCell column value r.cells⟩

/-- The row with a column set to a value. -/
def withValue (r : Row) (column : String) (value : Cell) : Row :=
  r.insert column (some value)

/-- The cell of a column: `none` for an unknown column, `some none` for an absent value. -/
def get? (r : Row) (column : String) : Option (Option Cell) :=
  r.cells.findSome? fun (c, v) => if c = column then some v else none

/-- The number of columns. -/
def size (r : Row) : Nat :=
  r.cells.length

/-- A row without columns. -/
def isEmpty (r : Row) : Bool :=
  r.cells.isEmpty

end Row

end TableFeed
