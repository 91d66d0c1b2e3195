import TableFeed.Config.Setting
import TableFeed.Source.SqlReader

/-!
# Readers

A reader takes batches of rows from its source, a file or a table of a database. What it needs to
go on later is its metadata.
-/

namespace TableFeed

/-- A reader of either kind of source. -/
inductive Reader where
  | file (r : FileReader)
  | sql (r : SqlReader)
  deriving DecidableEq, Repr

/-- What goes wrong with a write. -/
inductive WriteFault where
  /-- The file cannot be opened, and stays as it is. -/
  | opening (cause : FileError)
  /-- The file was emptied, and then only so many bytes of the content came to stand in it. -/
  | writing (cause : FileError) (written : Nat)
  deriving DecidableEq, Repr

/-- What readers read from and the store is written to. -/
structure Surroundings where
  files : Files := {}
  /-- What goes wrong with the next writes, first to last; nothing once the list is empty. -/
  faults : List (Option WriteFault) := []
  database : DatabaseServer := { listening := false, result := ⟨[], []⟩ }
  deriving Repr

namespace Surroundings

/-- Sets the content of a file. If that cannot be, the files stay as they are. -/
def setContent (s : Surroundings) (path : String) (content : List UInt8) :
    Surroundings × Option FileError :=
  match s.files.write path content with
  | .error cause => (s, some cause)
  | .ok files => ({ s with files }, none)

/-- Replaces the content of a file, unless something goes wrong. A file that is opened is emptied first,
so what goes wrong behind that leaves the beginning of the content in it. -/
def write (s : Surroundings) (path : String) (content : List UInt8) :
    Surroundings × Option FileError :=
  let fault := s.faults.head?.join
  let s := { s with faults := s.faults.tail }
  match fault with
  | none => s.setContent path content
  | some (.opening cause) => (s, some cause)
  | some (.writing cause written) =>
    let (s, failure) := s.setContent path (content.take written)
    (s, some (failure.getD cause))

end Surroundings

namespace Reader

/-- The reader of a kind that some metadata describes. -/
def ofMetadata (kind : ReaderKind) (metadata : Json) : Except Error Reader :=
  let reader : Except Json.Cause Reader := match kind with
    | .csv => (FileReader.ofMetadata metadata).map .file
    | .sql => (SqlReader.ofMetadata metadata).map .sql
  reader.mapError fun cause => .malformedMetadata ⟨cause, none⟩

/-- The reader of a kind that a metadata text describes. -/
def parse (kind : ReaderKind) (metadata : String) : Except Error Reader := do
  ofMetadata kind (← (Json.parse metadata).mapError .malformedMetadata)

/-- The metadata that describes a reader. -/
def metadata : Reader → Json
  | .file r => r.metadata
  | .sql r => r.metadata

/-- The seconds from one reading to the next. -/
def interval : Reader → Binary64
  | .file r => r.interval
  | .sql r => r.interval

/-- A reader in the log and in errors. -/
def display : Reader → String
  | .file r => r.fileName
  | .sql r => r.display

/-- Prepares a new reader; gives the mounts of shares and the log lines too. -/
def prepare (r : Reader) (access : ShareAccess) : Reader × List Share.Mount × List LogLine :=
  match r with
  | .file r =>
    let (r, mounts, log) := r.prepare access
    (.file r, mounts, log)
  | .sql r => (.sql r.prepare, [], [])

/-- Takes the next batch of rows: the reader afterwards, the log lines, the rows or the failure. -/
def read (r : Reader) (s : Surroundings) : Reader × List LogLine × Except ReadError (List Row) :=
  match r with
  | .file r =>
    let (r, result) := r.read s.files
    (.file r, [], result)
  | .sql r =>
    let reading := r.read s.database
    (.sql r, reading.log, reading.result)

end Reader

end TableFeed
