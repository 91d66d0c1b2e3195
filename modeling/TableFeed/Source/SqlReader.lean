import TableFeed.Database.Cell
import TableFeed.Json.Schema
import TableFeed.Log
import TableFeed.Source.FileReader
import TableFeed.Table.Binding

/-!
# Reading a database

A table of a database is read in full each time: the reader connects, asks for the columns of the
rows that a condition selects, and takes every cell by the type of its column. The first cell that
cannot be taken fails the reading.
-/

namespace TableFeed

/-- A reader of a table. -/
structure SqlReader where
  dbType : String := ""
  server : String
  /-- The schema to search; empty for the server's own. -/
  instanceName : String := ""
  /-- The port of the server; zero for the usual one. -/
  port : Nat := 0
  user : String := ""
  password : String := ""
  database : String
  table : String
  columns : String := ""
  condition : String := ""
  interval : Binary64 := .zero false
  deriving DecidableEq, Repr

/-- The answer to a query: the columns, and the cells of each row as bytes. -/
structure ResultSet where
  columns : List (String × ColumnType)
  rows : List (List (Option (List UInt8)))
  deriving Repr

/-- When a server answers an error. -/
inductive Stage where
  | startup
  | prepare
  | execute
  deriving DecidableEq, Repr

/-- How a server behaves towards a reader. -/
structure DatabaseServer where
  listening : Bool := true
  asksPassword : Bool := false
  result : ResultSet
  refuses : Option Stage := none
  deriving Repr

/-- One reading of a table: what was sent to the server, and what came of it. -/
structure SqlReading where
  startup : Option (List (String × String)) := none
  password : Option String := none
  queries : List String := []
  log : List LogLine := []
  result : Except ReadError (List Row)

namespace SqlReader

/-- The fields of a reader's metadata. -/
def schema : Json.Schema where
  name := "SqlTableReader"
  fields :=
    [⟨"dbtype", .text, some (.string "")⟩, ⟨"server", .text, none⟩,
     ⟨"instance", .text, some (.string "")⟩, ⟨"port", .natural 16, some (.int 0)⟩,
     ⟨"dbuser", .text, some (.string "")⟩, ⟨"dbpass", .text, some (.string "")⟩,
     ⟨"database", .text, none⟩, ⟨"table", .text, none⟩, ⟨"columns", .text, some (.string "")⟩,
     ⟨"where", .text, some (.string "")⟩, ⟨"interval", .number, some (.float (.zero false))⟩]

/-- The reader that some metadata describes. -/
def ofMetadata (metadata : Json) : Except Json.Cause SqlReader := do
  match ← schema.ofJson metadata with
  | [dbType, server, instanceName, port, user, password, database, table, columns, condition,
      interval] =>
    return { dbType := dbType.asText, server := server.asText,
             instanceName := instanceName.asText, port := port.asNatural, user := user.asText,
             password := password.asText, database := database.asText, table := table.asText,
             columns := columns.asText, condition := condition.asText,
             interval := interval.asNumber }
  | _ => throw (.missingField "server")

/-- The metadata that describes a reader. -/
def metadata (r : SqlReader) : Json :=
  .object
    [("dbtype", .string r.dbType), ("server", .string r.server),
     ("instance", .string r.instanceName), ("port", .int r.port), ("dbuser", .string r.user),
     ("dbpass", .string r.password), ("database", .string r.database),
     ("table", .string r.table), ("columns", .string r.columns), ("where", .string r.condition),
     ("interval", Json.ofBinary64 r.interval)]

/-- Prepares a reader: no condition selects every row, no columns mean all. -/
def prepare (r : SqlReader) : SqlReader :=
  { r with
    condition := if Blank.isEmpty r.condition then "1=1" else r.condition
    columns := if Blank.isEmpty r.columns then "*" else r.columns }

/-- The query of every reading. -/
def query (r : SqlReader) : String :=
  s!"SELECT {r.columns} FROM {r.table} WHERE {r.condition}"

/-- A reader in the log and in errors. -/
def display (r : SqlReader) : String :=
  s!"{r.server}:{r.port} {r.database}:{r.table}"

/-- The parameters of the connection, in the order of their names. -/
def startupParameters (r : SqlReader) : List (String × String) :=
  [("application_name", "dbreader"), ("client_encoding", "UTF8"), ("database", r.database)] ++
    (if r.instanceName.isEmpty then []
      else [("options", s!"-c search_path={r.instanceName}")]) ++
    [("user", r.user)]

/-- A text that can be sent to a server. -/
def sendable (s : String) : Bool :=
  !s.toList.contains '\x00'

/-- The cell of a column. -/
def decodeColumn (columns : List (String × ColumnType)) (cells : List (Option (List UInt8)))
    (index : Nat) : Except ReadError (Option Cell) :=
  match columns[index]?, cells[index]? with
  | some (name, type), some (some bytes) =>
    (type.decode bytes).mapError fun e => .decode name e.message
  | _, _ => .ok none

/-- The warning for a cell of a type without a decoder. -/
def unsupported (column : String × ColumnType) (cell : Option (List UInt8)) :
    Option LogLine :=
  match column, cell with
  | (name, .other type), some _ =>
    some ⟨.warn,
      s!"[SqlTableReader] Column '{name}' has unsupported type {type}, treating as NULL"⟩
  | _, _ => none

/-- The cells of a row up to the first that cannot be taken. -/
def taken : List (String × ColumnType) → List (Option (List UInt8)) →
    List ((String × ColumnType) × Option (List UInt8))
  | column :: columns, cell :: cells =>
    match cell.map column.2.decode with
    | some (.error _) => []
    | _ => (column, cell) :: taken columns cells
  | _, _ => []

/-- The rows of a result, one after the other into the same binding: the rows, or the failure of
the first cell that cannot be taken, and the warnings up to there. -/
def fetch (columns : List (String × ColumnType)) :
    Binding → List (List (Option (List UInt8))) → Except ReadError (List Row) × List LogLine
  | _, [] => (.ok [], [])
  | binding, cells :: rest =>
    let log := (taken columns cells).filterMap fun (column, cell) => unsupported column cell
    match binding.scan (decodeColumn columns cells) with
    | (_, some e) => (.error e, log)
    | (binding, none) =>
      let (rows, more) := fetch columns binding rest
      (rows.map (binding.row :: ·), log ++ more)

/-- Reads the table. -/
def read (r : SqlReader) (s : DatabaseServer) : SqlReading :=
  let target := r.display
  let parameters := r.startupParameters
  if ¬ s.listening then { result := .error (.connection target .unreachable) }
  else if ¬ parameters.all fun (_, value) => sendable value then
    { result := .error (.connection target .unsendable) }
  else
    let startup := some parameters
    if s.asksPassword ∧ ¬ sendable r.password then
      { startup, result := .error (.connection target .unsendable) }
    else
      let password := if s.asksPassword then some r.password else none
      if s.refuses = some .startup then
        { startup, password, result := .error (.connection target .refused) }
      else if ¬ sendable r.query then
        { startup, password, result := .error (.query r.query .unsendable) }
      else
        let queries := [r.query]
        if s.refuses.isSome then
          { startup, password, queries, result := .error (.query r.query .refused) }
        else
          let names := s.result.columns.map (·.1)
          let (result, log) := fetch s.result.columns (.ofFields names) s.result.rows
          { startup, password, queries, log, result }

end SqlReader

end TableFeed
