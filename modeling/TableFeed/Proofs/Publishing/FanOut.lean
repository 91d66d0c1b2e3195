import Mathlib.Data.List.DropRight
import TableFeed.Publishing.Batch

/-!
# The fan-out of rows

Which messages are to be sent of rows, apart from how a batch comes to send them: row by row, and within a
row column by column, one for every value but the identity of the row and values that show nothing but
spaces. `Batch.messages` takes a batch apart cell by cell, and passes cells over as it goes.

* **`fanOut`** — the messages of rows.
* **`messages_eq_fanOut`** — a batch is taken apart into the fan-out of its rows.
-/

namespace TableFeed

/-- A text without the spaces in front of it and behind it. -/
def withoutSpaces (s : String) : String :=
  String.ofList ((s.toList.dropWhile (· = ' ')).rdropWhile (· = ' '))

namespace Row

/-- The columns of a row that hold a value, each with its value. -/
def values (row : Row) : List (String × Cell) :=
  row.cells.filterMap fun (column, cell) => cell.map (column, ·)

/-- The name of the samples of a row: what its identity shows, or `mfx_id` for a row without one. -/
def sample (row : Row) : String :=
  match row.cells.lookup "mfx_id" with
  | some (some identity) => identity.display
  | _ => "mfx_id"

end Row

/-- A value is sent: it is no identity, and it shows more than spaces. -/
def isSent (value : String × Cell) : Bool :=
  value.1 ≠ "mfx_id" ∧ withoutSpaces value.2.display ≠ ""

/-- The message of a value of a row, under its topic. -/
def messageOf (thing channel : String) (row : Row) (value : String × Cell) : String × Message :=
  ("channels." ++ channel ++ "." ++ value.1,
    { publisher := thing
      protocol := "dbreader"
      channel
      subtopic := value.1
      payload := Sample.encode row.sample (withoutSpaces value.2.display) })

/-- The messages of rows: row by row, value by value. -/
def fanOut (thing channel : String) (rows : List Row) : List (String × Message) :=
  rows.flatMap fun row => (row.values.filter isSent).map (messageOf thing channel row)

theorem fanOut_append (thing channel : String) (rows more : List Row) :
    fanOut thing channel (rows ++ more) = fanOut thing channel rows ++ fanOut thing channel more :=
  List.flatMap_append

namespace Row

/-- The first cell of a column is the one that is looked up. -/
theorem lookup_cells (row : Row) (column : String) : row.cells.lookup column = row.get? column := by
  unfold get?
  induction row.cells with
  | nil => rfl
  | cons cell rest ih =>
    obtain ⟨c, value⟩ := cell
    by_cases hc : c = column
    · rw [hc, List.lookup_cons_self, List.findSome?_cons]
      simp only [if_pos]
    · rw [List.lookup_cons, beq_false_of_ne (Ne.symm hc), List.findSome?_cons]
      simp only [if_neg hc, ih]

theorem sampleName_eq (row : Row) : Batch.sampleName row = row.sample := by
  unfold Batch.sampleName sample
  rw [row.lookup_cells]
  rfl

end Row

namespace Batch

theorem sentText_eq (value : Cell) : sentText value = withoutSpaces value.display :=
  rfl

/-- A cell gives the message of its value, unless it has none or the value is not sent. -/
theorem cellMessage?_eq (b : Batch) (row : Row) (column : String) (cell : Option Cell) :
    b.cellMessage? (sampleName row) (column, cell) =
      ((cell.map (column, ·)).filter isSent).map (messageOf b.thing b.channel row) := by
  cases cell with
  | none => rfl
  | some value =>
    have hempty : (sentText value).isEmpty = true ↔ withoutSpaces value.display = "" :=
      String.isEmpty_iff
    rw [Option.map_some]
    by_cases hskip : column = "mfx_id" ∨ withoutSpaces value.display = ""
    · have hunsent : isSent (column, value) = false := by
        rcases hskip with h | h <;> simp [isSent, h]
      rw [Option.filter_some_neg hunsent]
      exact if_pos (hskip.imp_right hempty.mpr)
    · have hsent : isSent (column, value) = true := by
        rw [not_or] at hskip
        simp [isSent, hskip]
      rw [Option.filter_some_pos hsent, Option.map_some, messageOf, ← row.sampleName_eq,
        ← sentText_eq]
      exact if_neg fun h => hskip (h.imp_right hempty.mp)

/-- A batch is taken apart into the fan-out of its rows. -/
theorem messages_eq_fanOut (b : Batch) : b.messages = fanOut b.thing b.channel b.rows := by
  have hrow : ∀ row, b.rowMessages row =
      (row.values.filter isSent).map (messageOf b.thing b.channel row) := by
    intro row
    rw [Row.values, List.filter_filterMap, List.map_filterMap]
    exact congrArg (row.cells.filterMap ·)
      (funext fun (column, cell) => b.cellMessage?_eq row column cell)
  unfold messages fanOut
  rw [funext hrow]

end Batch

end TableFeed
