import TableFeed.Publishing.Publisher
import TableFeed.Registry.Basic
import TableFeed.Service.Basic

/-!
# The adapter

The adapter is a registry with its store, the publisher its pollers use and the clock they run by.
Its service installs and removes things, each time with a new text of the store, and publishes
batches. `Adapter.elapse` lets the clock run: pollers told to stop exit, and ticks are taken when
they are due, each followed by its reading and publishing.
-/

namespace TableFeed

/-- A running adapter with a publisher of type `π`. -/
structure Adapter (π : Type) where
  kind : ReaderKind := .csv
  /-- The file of the store. -/
  path : String := "dbreader.cfg"
  access : ShareAccess := {}
  registry : Registry := {}
  surroundings : Surroundings := {}
  publisher : π
  now : Instant := 0
  /-- The shares mounted so far. -/
  mounts : List Share.Mount := []
  log : List LogLine := []
  deriving Repr

namespace Adapter

variable {π : Type}

/-- Writes to the log. -/
def note (a : Adapter π) (level : Level) (body : String) : Adapter π :=
  { a with log := a.log ++ [⟨level, body⟩] }

/-! ### The registry and its store -/

/-- A prepared reader of the adapter's kind. -/
def build (a : Adapter π) (metadata : Json) : Adapter π × Except Error Reader :=
  match Reader.ofMetadata a.kind metadata with
  | .error e => (a, .error e)
  | .ok reader =>
    let (reader, mounts, log) := reader.prepare a.access
    ({ a with mounts := a.mounts ++ mounts, log := a.log ++ log }, .ok reader)

/-- The reader that a metadata text describes, prepared. -/
def prepare (a : Adapter π) (metadata : String) : Adapter π × Except Error Reader :=
  match Json.parse metadata with
  | .error cause => (a, .error (.malformedMetadata cause))
  | .ok metadata => a.build metadata

/-- Puts a prepared reader under an id, without starting it. -/
def put (a : Adapter π) (id channel : String) (reader : Reader) : Adapter π :=
  let word := if (a.registry.feed? id).isSome then "Replaced" else "Created"
  let a := { a with registry := a.registry.install id channel reader }
  a.note .info s!"[Registry] {word} reader for thing {id}"

/-- Installs the reader that a metadata text describes, without starting it. -/
def install (a : Adapter π) (id channel metadata : String) : Adapter π × Option Error :=
  match a.prepare metadata with
  | (a, .error e) => (a, some e)
  | (a, .ok reader) => (a.put id channel reader, none)

/-- Removes the feed of a thing. -/
def remove (a : Adapter π) (id : String) : Adapter π × Option Error :=
  match a.registry.remove? id with
  | none => (a, some (.notFound id))
  | some registry =>
    let a : Adapter π := { a with registry }
    (a.note .info s!"[Registry] Deleted reader for thing {id}", none)

/-- Replaces the text of the store. -/
def writeStore (a : Adapter π) (text : String) : Adapter π × Option Error :=
  let (surroundings, failure) := a.surroundings.write a.path (Utf8.bytes text)
  let a := { a with surroundings }
  match failure with
  | some cause => (a, some (.file cause))
  | none => (a.note .debug s!"[Registry] Saved registry to {a.path}", none)

/-- Writes the registry to the store. -/
def save (a : Adapter π) : Adapter π × Option Error :=
  a.writeStore a.registry.storeText

/-- Starts the poller of a thing. -/
def schedule (a : Adapter π) (id : String) (traced : Bool) : Adapter π × Option Error :=
  match a.registry.start id traced a.now with
  | (registry, some e) => ({ a with registry }, some e)
  | (registry, none) =>
    let every := match registry.feed? id with
      | some f => f.interval.text
      | none => ""
    (({ a with registry } : Adapter π).note .info s!"[Scheduler] Polling thing {id} every {every}",
      none)

/-- Starts the poller of one thing of many: how many were started. A failure is logged. -/
def scheduleNext (a : Adapter π) (id : String) : Adapter π × Nat :=
  match a.schedule id false with
  | (a, none) => (a, 1)
  | (a, some e) => (a.note .warn s!"[Registry] Could not schedule thing {id}: {e.message}", 0)

/-- Starts the pollers of some things: how many were started. -/
def scheduleAll : List String → Adapter π → Adapter π × Nat
  | [], a => (a, 0)
  | id :: rest, a =>
    let (a, first) := a.scheduleNext id
    let (a, started) := scheduleAll rest a
    (a, first + started)

/-- Starts the pollers of all things: how many there are. -/
def start (a : Adapter π) : Adapter π × Nat :=
  scheduleAll a.registry.ids a

/-- Tells every poller to stop. -/
def stopAll (a : Adapter π) : Adapter π :=
  { a with registry := a.registry.stopAll }

/-- The feed that a line of the store describes, with its reader. -/
def loadLine (a : Adapter π) (line : String) : Adapter π × Except Error (StoredFeed × Reader) :=
  match StoredFeed.parse line with
  | .error e => (a, .error e)
  | .ok stored =>
    match a.build stored.metadata with
    | (a, .error e) => (a, .error e)
    | (a, .ok reader) => (a, .ok (stored, reader))

/-- The feeds that lines of the store describe; lines that describe none are passed over. -/
def loadLines : List (Nat × String) → Adapter π → Adapter π × List (StoredFeed × Reader)
  | [], a => (a, [])
  | (number, line) :: rest, a =>
    match a.loadLine line with
    | (a, .ok loaded) =>
      let (a, more) := loadLines rest a
      (a, loaded :: more)
    | (a, .error e) =>
      loadLines rest
        (a.note .debug s!"[Registry] Skipping line {number} of {a.path}: {e.message}")

/-- The feeds that the store describes. -/
def readStore (a : Adapter π) : Adapter π × Except Error (List (StoredFeed × Reader)) :=
  match a.surroundings.files.readText a.path with
  | .error .notFound => (a, .error (.storeNotFound a.path))
  | .error cause => (a, .error (.file cause))
  | .ok text =>
    let (a, loaded) := loadLines (Store.lines text) a
    (a, .ok loaded)

/-- Puts readers under their ids, without starting them. -/
def putAll (a : Adapter π) (loaded : List (StoredFeed × Reader)) : Adapter π :=
  let count := loaded.length
  let a := { a with registry := a.registry.installAll loaded }
  a.note .info s!"[Registry] Loaded {count} reader config(s) from {a.path}"

/-- Installs what the store describes, without starting it: how many lines did. -/
def load (a : Adapter π) : Adapter π × Except Error Nat :=
  match a.readStore with
  | (a, .error e) => (a, .error e)
  | (a, .ok loaded) => (a.putAll loaded, .ok loaded.length)

/-- Stops everything and begins anew with the same store and publisher. -/
def restart (a : Adapter π) : Adapter π :=
  let a := a.stopAll
  let log := a.registry.exiting.map fun id =>
    ⟨.debug, s!"[Scheduler] Polling task for thing {id} exited"⟩
  { a with registry := {}, log := a.log ++ log }

/-! ### The service -/

/-- Metadata that describes nothing. -/
def isBlankMetadata (metadata : String) : Bool :=
  metadata.isEmpty || metadata = "null"

/-- Writes the registry to the store and starts the poller of a thing. A store that cannot be written
fails this, but the poller runs. -/
def saveAndSchedule (a : Adapter π) (id : String) : Adapter π × Option Error :=
  let (a, saved) := a.save
  match a.schedule id false with
  | (a, some e) => (a, some e)
  | (a, none) => (a, saved)

/-- Installs and starts the reader that a metadata text describes. -/
def createThing (a : Adapter π) (id channel metadata : String) : Adapter π × Option Error :=
  let metadata := Blank.trim metadata
  if isBlankMetadata metadata then (a, some .malformedIdentity)
  else
    match a.install id channel metadata with
    | (a, some e) => (a, some e)
    | (a, none) => a.saveAndSchedule id

/-- Removes a thing. -/
def removeThing (a : Adapter π) (id : String) : Adapter π × Option Error :=
  match a.remove id with
  | (a, some e) => (a, some (.readerNotFound id e))
  | (a, none) =>
    match a.save with
    | (a, some e) => (a, some e)
    | (a, none) => (a.note .info s!"[AdapterService] Removed reader for thing {id}", none)

section Publishing

variable [Publisher π]

/-- Publishes one message. -/
def publishMessage (a : Adapter π) (topic : String) (m : Message) : Adapter π × Option Error :=
  let (publisher, log, failure) := Publisher.publish a.publisher topic m
  ({ a with publisher, log := a.log ++ log }, failure)

/-- Publishes messages up to the first that fails. -/
def publishMessages : List (String × Message) → Adapter π → Adapter π × Option Error
  | [], a => (a, none)
  | (topic, m) :: rest, a =>
    match a.publishMessage topic m with
    | (a, some e) => (a, some e)
    | (a, none) => publishMessages rest a

/-- The service of an adapter. Updates of things and channels are accepted and change nothing. -/
def service : Service (Adapter π) where
  createThing id channel metadata a := a.createThing id channel metadata
  updateThing _ _ _ a := (a, none)
  removeThing id a := a.removeThing id
  createChannel _ _ a := (a, none)
  removeChannel _ a := (a, none)
  publish batch a := publishMessages batch.messages a
  note line a := { a with log := a.log ++ [line] }

/-- The service of an adapter, one that logs its calls or one that does not. -/
def serviceFor (traced : Bool) : Service (Adapter π) :=
  if traced then service.traced else service

/-! ### Pollers -/

/-- A poller exits, if it waits and was told to stop. -/
def exit (a : Adapter π) (p : Nat) : Adapter π :=
  let log : List LogLine := match a.registry.pollers[p]? with
    | some q =>
      if q.exiting then [⟨.debug, s!"[Scheduler] Polling task for thing {q.thing} exited"⟩] else []
    | none => []
  { a with registry := a.registry.exit p, log := a.log ++ log }

/-- The pollers that wait and were told to stop exit. -/
def exitStopped (a : Adapter π) : Adapter π :=
  let log := a.registry.exiting.map fun id =>
    ⟨.debug, s!"[Scheduler] Polling task for thing {id} exited"⟩
  { a with registry := a.registry.exitStopped, log := a.log ++ log }

/-- A poller takes a tick that is due. -/
def takeTick (a : Adapter π) (p : Nat) : Adapter π :=
  { a with registry := a.registry.takeTick p a.now }

/-- A poller that has taken a tick gets hold of its source. -/
def beginReading (a : Adapter π) (p : Nat) : Adapter π :=
  let registry := a.registry.holdSource p
  match registry.pollers[p]? with
  | some q =>
    match q.phase, registry.sources[q.source]? with
    | .reading, some s =>
      ({ a with registry } : Adapter π).note .debug s!"[Scheduler] Reading {s.reader.display}"
    | _, _ => a
  | none => a

/-- The log line for a reading. -/
def readingLine (reader : Reader) (result : Except ReadError (List Row)) : LogLine :=
  match result with
  | .ok rows => ⟨.debug, s!"[Scheduler] Read {rows.length} row(s) from {reader.display}"⟩
  | .error e =>
    if e.isEmptySource then ⟨.debug, s!"[Scheduler] {e.message}"⟩
    else ⟨.warn, s!"[Scheduler] Read of {reader.display} failed: {e.message}"⟩

/-- A poller that holds its source reads it. -/
def finishReading (a : Adapter π) (p : Nat) : Adapter π :=
  match a.registry.pollers[p]? with
  | none => a
  | some q =>
    match q.phase, a.registry.sources[q.source]? with
    | .reading, some s =>
      let (reader, log, result) := s.reader.read a.surroundings
      { a with
        registry := a.registry.finishReading p a.kind reader result
        log := a.log ++ log ++ [readingLine reader result] }
    | _, _ => a

/-- A poller ends publishing a batch; a failure is logged and the rest of the batch is lost. -/
def finishPublishing (a : Adapter π) (p : Nat) (q : Poller) (batch : Batch)
    (failure : Option Error) : Adapter π :=
  let a := { a with registry := a.registry.setPhase p .waiting }
  let a := if q.traced then service.note (Service.outcome batch.display failure) a else a
  match failure with
  | none => a
  | some e => a.note .warn s!"[Scheduler] Publish for thing {q.thing} failed: {e.message}"

/-- A poller publishes the next message of its batch, or ends the batch. -/
def publishNext (a : Adapter π) (p : Nat) : Adapter π :=
  match a.registry.pollers[p]? with
  | none => a
  | some q =>
    match q.phase with
    | .publishing batch [] => a.finishPublishing p q batch none
    | .publishing batch ((topic, m) :: rest) =>
      match a.publishMessage topic m with
      | (a, some e) => a.finishPublishing p q batch (some e)
      | (a, none) => { a with registry := a.registry.setPhase p (.publishing batch rest) }
    | _ => a

/-- A poller takes so many steps of publishing. -/
def publishSteps (p : Nat) : Nat → Adapter π → Adapter π
  | 0, a => a
  | n + 1, a => publishSteps p n (a.publishNext p)

/-- The messages that a poller has left to publish. -/
def unpublished (a : Adapter π) (p : Nat) : Nat :=
  match a.registry.pollers[p]? with
  | some { phase := .publishing _ rest, .. } => rest.length
  | _ => 0

/-- A poller takes its tick, reads and publishes, with nothing else in between. -/
def poll (a : Adapter π) (p : Nat) : Adapter π :=
  let a := ((a.takeTick p).beginReading p).finishReading p
  publishSteps p (a.unpublished p + 1) a

/-- Takes the ticks due up to a moment, in the order in which they are due. -/
def pollUntil (limit : Instant) : Nat → Adapter π → Adapter π
  | 0, a => { a with now := max a.now limit }
  | rounds + 1, a =>
    match a.registry.nextDue limit with
    | none => { a with now := max a.now limit }
    | some (p, moment) =>
      pollUntil limit rounds (({ a with now := max a.now moment } : Adapter π).poll p)

/-- Lets the clock run for a time. -/
def elapse (a : Adapter π) (d : Duration) : Adapter π :=
  let a := a.exitStopped
  let limit := a.now + d.nanos
  pollUntil limit (a.registry.ticksUntil limit) a

end Publishing

end Adapter

end TableFeed
