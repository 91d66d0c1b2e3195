import TableFeed.Json.Schema
import TableFeed.Error
import TableFeed.Text.Blank
import TableFeed.Text.Split

/-!
# The store

The store keeps a registry between runs: a text with a line for each thing, in the order of their
ids. A line is a JSON object of the thing's id, its channel and the metadata of its reader.
-/

namespace TableFeed

/-- What the store keeps of a thing. -/
structure StoredFeed where
  id : String
  channel : String
  metadata : Json
  deriving Repr

namespace StoredFeed

/-- The fields of a line. -/
def schema : Json.Schema where
  name := "StoredConfig"
  fields := [⟨"id", .text, none⟩, ⟨"channel_id", .text, none⟩, ⟨"metadata", .any, none⟩]

/-- The JSON of a line. -/
def toJson (f : StoredFeed) : Json :=
  .object [("id", .string f.id), ("channel_id", .string f.channel), ("metadata", f.metadata)]

/-- The line of a thing. -/
def line (f : StoredFeed) : String :=
  f.toJson.render ++ "\n"

/-- The thing that a line keeps. -/
def parse (line : String) : Except Error StoredFeed :=
  match schema.parse line with
  | .error cause => .error (.malformedMetadata cause)
  | .ok [id, channel, metadata] => .ok ⟨id.asText, channel.asText, metadata⟩
  | .ok _ => .error (.malformedMetadata ⟨.missingField "id", none⟩)

end StoredFeed

namespace Store

/-- The text of a store. -/
def text (feeds : List StoredFeed) : String :=
  String.join (feeds.map StoredFeed.line)

/-- The lines of a text that are not blank, trimmed, with their numbers from one. -/
def lines (text : String) : List (Nat × String) :=
  let all := (Split.every (· = '\n') text.toList).map Blank.trimChars
  ((List.range' 1 all.length).zip all).filterMap fun (n, line) =>
    if line = [] then none else some (n, String.ofList line)

end Store

end TableFeed
