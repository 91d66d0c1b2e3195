import TableFeed.Error
import TableFeed.Json.Schema

/-!
# Provisioning events

Things and channels are provisioned elsewhere. Their lifecycle arrives as entries of a stream, each
a flat map of texts; `Event.decode` says what an entry asks for. Metadata that is tagged for another
adapter is told apart from metadata that is malformed.
-/

namespace TableFeed

/-- An entry of the stream: its id and its fields. -/
structure Entry where
  id : String
  fields : List (String × String) := []
  deriving DecidableEq, Repr

/-- The text of a field, or a default if there is no such field. -/
def Entry.field (e : Entry) (name default : String) : String :=
  (e.fields.lookup name).getD default

/-- What a thing is to be made of. -/
structure Provision where
  id : String
  channel : String
  /-- The description of the thing's source, a JSON text. -/
  source : String
  deriving DecidableEq, Repr

/-- What an entry asks for. -/
inductive Event where
  | thingCreate (p : Provision)
  | thingUpdate (p : Provision)
  | thingRemove (id : String)
  | channelRemove (id : String)
  /-- An operation that the adapter does not act on. -/
  | ignored (operation : String)
  deriving DecidableEq, Repr

namespace Event

/-- The tag of metadata for this adapter. -/
def domainTag : String := "dbReader"

/-- The fields of an entry's metadata. -/
def schema : Json.Schema where
  name := "DbReaderMetadata"
  fields :=
    [⟨"type", .text, some (.string "")⟩, ⟨"db_reader_data", .any, some .null⟩,
     ⟨"channel_id", .text, some (.string "")⟩]

/-- What an entry says a thing is to be made of. -/
def provision (e : Entry) : Except Error Provision :=
  match schema.parse (e.field "metadata" "\x7b\x7d") with
  | .error cause => .error (.eventDecode s!"malformed metadata: {cause.message}")
  | .ok [kind, source, channel] =>
    if kind.asText ≠ domainTag then .error (.foreignMetadata domainTag)
    else .ok ⟨e.field "id" "", channel.asText, source.render⟩
  | .ok _ => .error (.foreignMetadata domainTag)

/-- What an entry asks for. -/
def decode (e : Entry) : Except Error Event :=
  let id := e.field "id" ""
  let operation := e.field "operation" ""
  if operation = "thing.create" then (provision e).map .thingCreate
  else if operation = "thing.update" then (provision e).map .thingUpdate
  else if operation = "thing.remove" then .ok (.thingRemove id)
  else if operation = "channel.remove" then .ok (.channelRemove id)
  else .ok (.ignored operation)

end Event

end TableFeed
