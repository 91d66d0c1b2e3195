import TableFeed.Text.Utf8

/-!
# Comma-separated records

A text of records: fields end at a comma, records at a line feed or a carriage return, and lines
without anything in them are no records. A field may stand between double quotes, which take commas
and line ends into it; a doubled quote inside them stands for one. Records may differ in length.
Every field is trimmed of ASCII white space afterwards.
-/

namespace TableFeed.Csv

/-- A record: its fields as bytes. -/
abbrev Record := List (List UInt8)

/-- Where in a record the next byte stands. -/
inductive Place where
  /-- No byte of a record has been read. -/
  | start
  /-- Behind a comma. -/
  | field
  /-- Inside a field without quotes, or behind the closing quote of one. -/
  | plain
  /-- Inside quotes. -/
  | quoted
  /-- Behind a quote inside quotes: the closing one, or the first of a pair. -/
  | quote
  deriving DecidableEq, Repr

def comma : UInt8 := 0x2C
def mark : UInt8 := 0x22

/-- A byte that ends a record. -/
def isEnd (b : UInt8) : Bool :=
  b == 0x0A || b == 0x0D

/-- The record of the fields before its last one and that field. Both are last first. -/
def close (fields : Record) (field : List UInt8) : Record :=
  (field.reverse :: fields).reverse

/-- The records of a text, from a place inside one whose fields and whose last field so far are
given, both last first. -/
def recordsFrom : Place → Record → List UInt8 → List UInt8 → List Record
  | .start, _, _, [] => []
  | _, fields, field, [] => [close fields field]
  | .quoted, fields, field, b :: bs =>
    if b = mark then recordsFrom .quote fields field bs
    else recordsFrom .quoted fields (b :: field) bs
  | .quote, fields, field, b :: bs =>
    if b = mark then recordsFrom .quoted fields (b :: field) bs
    else if b = comma then recordsFrom .field (field.reverse :: fields) [] bs
    else if isEnd b then close fields field :: recordsFrom .start [] [] bs
    else recordsFrom .plain fields (b :: field) bs
  | .plain, fields, field, b :: bs =>
    if b = comma then recordsFrom .field (field.reverse :: fields) [] bs
    else if isEnd b then close fields field :: recordsFrom .start [] [] bs
    else recordsFrom .plain fields (b :: field) bs
  | .start, _, _, b :: bs =>
    if isEnd b then recordsFrom .start [] [] bs
    else if b = mark then recordsFrom .quoted [] [] bs
    else if b = comma then recordsFrom .field [[]] [] bs
    else recordsFrom .plain [] [b] bs
  | .field, fields, _, b :: bs =>
    if b = mark then recordsFrom .quoted fields [] bs
    else if b = comma then recordsFrom .field ([] :: fields) [] bs
    else if isEnd b then close fields [] :: recordsFrom .start [] [] bs
    else recordsFrom .plain fields [b] bs

/-- ASCII white space. -/
def isBlank (b : UInt8) : Bool :=
  b == 0x20 || b == 0x09 || b == 0x0A || b == 0x0C || b == 0x0D

/-- A field without white space at either end. -/
def trim (field : List UInt8) : List UInt8 :=
  ((field.dropWhile isBlank).reverse.dropWhile isBlank).reverse

/-- A text without the byte order mark at its front. -/
def dropMark : List UInt8 → List UInt8
  | 0xEF :: 0xBB :: 0xBF :: rest => rest
  | bs => bs

/-- The records of a file, every field trimmed. -/
def records (content : List UInt8) : List Record :=
  (recordsFrom .start [] [] (dropMark content)).map fun r => r.map trim

end TableFeed.Csv
