import TableFeed.Json.Schema

/-!
# Outbound messages

One measurement on its way to the bus, and its form on the wire: a JSON object of five texts.
-/

namespace TableFeed

/-- One measurement. -/
structure Message where
  /-- The thing that produced it. -/
  publisher : String
  protocol : String
  channel : String
  /-- The column it comes from. -/
  subtopic : String
  /-- The encoded sample. -/
  payload : String
  deriving DecidableEq, Repr

namespace Message

/-- The protocol of every message. -/
def protocolTag : String := "dbreader"

/-- The message of a thing's column. -/
def ofColumn (thing channel column payload : String) : Message :=
  ⟨thing, protocolTag, channel, column, payload⟩

/-- Where a message is published. -/
def topic (m : Message) : String :=
  s!"channels.{m.channel}.{m.subtopic}"

/-- The fields of a message on the wire. -/
def schema : Json.Schema where
  name := "OutboundMessage"
  fields :=
    [⟨"publisher", .text, none⟩, ⟨"protocol", .text, none⟩, ⟨"channel", .text, none⟩,
     ⟨"subtopic", .text, none⟩, ⟨"payload", .text, none⟩]

/-- A message as JSON. -/
def toJson (m : Message) : Json :=
  .object [("publisher", .string m.publisher), ("protocol", .string m.protocol),
    ("channel", .string m.channel), ("subtopic", .string m.subtopic),
    ("payload", .string m.payload)]

/-- The form of a message on the wire. -/
def wire (m : Message) : String :=
  m.toJson.render

/-- The message that a text on the wire is. -/
def ofWire (text : String) : Except Json.Error Message := do
  match ← schema.parse text with
  | [publisher, protocol, channel, subtopic, payload] =>
    return ⟨publisher.asText, protocol.asText, channel.asText, subtopic.asText, payload.asText⟩
  | _ => throw ⟨.missingField "payload", none⟩

end Message

end TableFeed
