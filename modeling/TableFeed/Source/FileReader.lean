import TableFeed.Json.Schema
import TableFeed.Log
import TableFeed.Source.Files
import TableFeed.Source.Share
import TableFeed.Table.Csv
import TableFeed.Table.Row
import TableFeed.Timing.Duration

/-!
# Reading a file

A file of comma-separated records is read incrementally: the first record names the columns, and
each reading gives the records behind those that earlier readings gave. The position is the number
of records given so far, and it identifies the rows.
-/

namespace TableFeed

/-- What readers are told about the shares that hold their files. -/
structure ShareAccess where
  user : String := ""
  password : String := ""
  /-- Why mounting fails, if it does. -/
  mountFailure : Option String := none
  deriving Repr

/-- A reader of a file. -/
structure FileReader where
  fileName : String
  /-- The columns to keep, between commas; none for all. -/
  columnsText : String := ""
  /-- The columns to keep, once the reader is prepared. -/
  columns : List String := []
  interval : Binary64 := .zero false
  dbType : String := ""
  /-- The records given so far. -/
  position : Nat := 0
  deriving DecidableEq, Repr

namespace FileReader

/-- The fields of a reader's metadata. -/
def schema : Json.Schema where
  name := "FileTableReader"
  fields :=
    [⟨"filename", .text, none⟩, ⟨"columns", .text, some (.string "")⟩,
     ⟨"interval", .number, some (.float (.zero false))⟩, ⟨"dbtype", .text, some (.string "")⟩,
     ⟨"header_pos", .natural 64, some (.int 0)⟩]

/-- The reader that some metadata describes. -/
def ofMetadata (metadata : Json) : Except Json.Cause FileReader := do
  match ← schema.ofJson metadata with
  | [fileName, columns, interval, dbType, position] =>
    return { fileName := fileName.asText, columnsText := columns.asText,
             interval := interval.asNumber, dbType := dbType.asText,
             position := position.asNatural }
  | _ => throw (.missingField "filename")

/-- A field that is left out if it is empty. -/
def optionalField (name text : String) : List (String × Json) :=
  if text.isEmpty then [] else [(name, .string text)]

/-- The metadata that describes a reader. -/
def metadata (r : FileReader) : Json :=
  .object <|
    [("filename", Json.string r.fileName)] ++ optionalField "columns" r.columnsText ++
      [("interval", Json.ofBinary64 r.interval)] ++ optionalField "dbtype" r.dbType ++
      [("header_pos", Json.int r.position)]

/-- The names between the commas of a list, trimmed, without empty ones. -/
def columnNames (text : String) : List String :=
  ((Split.every (· = ',') text.toList).map Blank.trimChars).filter (· ≠ []) |>.map String.ofList

/-- An interval that is replaced by the default. -/
def isUnset : Binary64 → Bool
  | .nan => false
  | .infinite negative => negative
  | .finite negative m _ => negative || m == 0

/-- Prepares a reader: its columns, its interval, and the share that holds its file, which is
mounted if there is a login for it. Gives the mounts and the log lines too. -/
def prepare (r : FileReader) (access : ShareAccess) :
    FileReader × List Share.Mount × List LogLine :=
  let r := { r with
    columns := columnNames r.columnsText
    interval :=
      if isUnset r.interval then .ofInt Duration.defaultIntervalSeconds else r.interval }
  if access.user.isEmpty ∨ access.password.isEmpty then (r, [], [])
  else
    match Share.root? r.fileName with
    | none => (r, [], [])
    | some share =>
      let log : List LogLine := match access.mountFailure with
        | none => []
        | some text =>
          [⟨.warn, s!"[FileTableReader] Failed to mount share '{share}': {text}"⟩]
      (r, [⟨share, access.user, access.password⟩], log)

/-- A column that is kept. -/
def keeps (r : FileReader) (column : String) : Bool :=
  r.columns.isEmpty || column ∈ r.columns

/-- The columns of the fields, none for a field that is not kept. -/
def headers (r : FileReader) (header : Csv.Record) : List (Option String) :=
  header.map fun field =>
    let name := Utf8.decodeLossy field
    if r.keeps name then some name else none

/-- The row of a record: its number, then the fields that have a column. -/
def row (headers : List (Option String)) (number : Nat) (record : Csv.Record) : Row :=
  (record.zip headers).foldl
    (fun row (field, header) =>
      match header with
      | none => row
      | some name => row.insert name (some (Cell.infer (Utf8.decodeLossy field))))
    (Row.insert {} identityColumn (some (.uint number)))

/-- The rows of records, numbered from a position. -/
def rows (headers : List (Option String)) : Nat → List Csv.Record → List Row
  | _, [] => []
  | position, record :: rest =>
    row headers (position + 1) record :: rows headers (position + 1) rest

/-- Reads the records of a file's content that have not been given yet. -/
def readContent (r : FileReader) (content : List UInt8) :
    FileReader × Except ReadError (List Row) :=
  match Csv.records content with
  | [] => (r, .error (.emptySource r.fileName))
  | header :: data =>
    match data.drop r.position with
    | [] =>
      if r.position = 0 then (r, .error (.emptySource r.fileName)) else (r, .ok [])
    | fresh =>
      ({ r with position := r.position + fresh.length },
        .ok (rows (r.headers header) r.position fresh))

/-- Reads the records that have not been given yet. A failure leaves the reader as it is. -/
def read (r : FileReader) (files : Files) : FileReader × Except ReadError (List Row) :=
  match files.read r.fileName with
  | .error cause => (r, .error (.fileOpen r.fileName cause))
  | .ok content => r.readContent content

end FileReader

end TableFeed
