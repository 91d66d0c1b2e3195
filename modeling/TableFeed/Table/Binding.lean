import TableFeed.Table.Row

/-!
# Column bindings

A binding holds the column names of a result and one slot for each column, which every record of
the result refills. A name that repeats stands for its last column.
-/

namespace TableFeed

/-- Column names with the slot of each. -/
structure Binding where
  fields : List String := []
  slots : List (Option Cell) := []
  deriving Repr

namespace Binding

/-- The binding of some column names, with empty slots. -/
def ofFields (fields : List String) : Binding :=
  ⟨fields, fields.map fun _ => none⟩

/-- Refills the slots from the column at each index. A column that fails leaves its slot and those
behind it. -/
def fill {ε : Type} (column : Nat → Except ε (Option Cell)) :
    Nat → List (Option Cell) → List (Option Cell) × Option ε
  | _, [] => ([], none)
  | index, slot :: slots =>
    match column index with
    | .error e => (slot :: slots, some e)
    | .ok value =>
      let (rest, failure) := fill column (index + 1) slots
      (value :: rest, failure)

/-- The binding with its slots refilled, and the failure that stopped it if there was one. -/
def scan {ε : Type} (b : Binding) (column : Nat → Except ε (Option Cell)) :
    Binding × Option ε :=
  let (slots, failure) := fill column 0 b.slots
  (⟨b.fields, slots⟩, failure)

/-- The value of a column: the last of its name. -/
def get? (b : Binding) (field : String) : Option Cell :=
  ((b.fields.zip b.slots).reverse.findSome? fun (f, v) => if f = field then some v else none).join

/-- The values of the slots as a row. -/
def row (b : Binding) : Row :=
  b.fields.foldl (fun r f => r.insert f (b.get? f)) {}

end Binding

end TableFeed
