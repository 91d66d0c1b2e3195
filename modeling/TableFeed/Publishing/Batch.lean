import TableFeed.Publishing.Message
import TableFeed.Sample
import TableFeed.Table.Row

/-!
# Batches

The rows of one reading on their way to the bus. Every row is fanned out: each of its cells that
holds text becomes one message, in the order of rows and, within a row, of columns. The identity
column names the samples of its row and is not sent itself.
-/

namespace TableFeed

/-- The rows of one reading. -/
structure Batch where
  /-- The kind of source they come from. -/
  kind : String
  thing : String
  channel : String
  rows : List Row
  deriving DecidableEq, Repr

namespace Batch

/-- The name of a row's samples. -/
def sampleName (row : Row) : String :=
  match row.get? identityColumn with
  | some (some value) => value.display
  | _ => identityColumn

/-- The text of a cell that is sent: without spaces at either end. -/
def sentText (value : Cell) : String :=
  String.ofList (Blank.trimBy (· = ' ') value.display.toList)

/-- The message of a cell with its topic, unless there is nothing to send. -/
def cellMessage? (b : Batch) (sample : String) (cell : String × Option Cell) :
    Option (String × Message) :=
  match cell with
  | (_, none) => none
  | (column, some value) =>
    let text := sentText value
    if column = identityColumn ∨ text.isEmpty then none
    else
      let m := Message.ofColumn b.thing b.channel column (Sample.encode sample text)
      some (m.topic, m)

/-- The messages of a row. -/
def rowMessages (b : Batch) (row : Row) : List (String × Message) :=
  row.cells.filterMap (b.cellMessage? (sampleName row))

/-- The messages of a batch, each with its topic. -/
def messages (b : Batch) : List (String × Message) :=
  b.rows.flatMap b.rowMessages

/-- A batch in the log. -/
def display (b : Batch) : String :=
  s!"publish of type {b.kind} for thing {b.thing} and channel {b.channel} ({b.rows.length} rows)"

end Batch

end TableFeed
